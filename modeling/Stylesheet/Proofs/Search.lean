import Stylesheet.Import.Resolution

/-! # What a search finds

A search for an `@import` asks one place after the other and numbers the statements of the sheet it
finds. This module takes the two apart. `Options.find` says what is found, from the files alone;
`Imports.afterSearch` says which lookups are logged on the way; and `run_searchFor` says that the
search is the two together. `answered_findOutcome` lists, once and for all, the ways in which the
query for the outcome of a statement can end and what it leaves behind, so no later proof opens the
query again. -/

namespace Stylesheet

open Diagnostic

/-- Of two computations in sequence the second runs where the first has left the state, unless the
first fails. -/
theorem run_bind {ε σ α β : Type} (first : ExceptT ε (StateM σ) α)
    (second : α → ExceptT ε (StateM σ) β) (s : σ) :
    (first >>= second).run s = match first.run s with
      | (.ok value, after) => (second value).run after
      | (.error error, after) => (.error error, after) := by
  -- The bind of the state is a match on the pair that the first computation leaves.
  show (match (first s : Except ε α × σ) with
    | (result, after) => ExceptT.bindCont second result after) = _
  simp only [ExceptT.run]
  rcases (first s : Except ε α × σ) with ⟨_ | _, _⟩ <;> rfl

/-! ## Files and places -/

/-- What a search has found: the description of a sheet and the resolver that holds it. -/
structure Found where
  /-- The description of the sheet. -/
  source : SheetSource
  /-- The resolver that holds the sheet. -/
  resolver : Resolver

/-- The options for the sheet that has been found. -/
def Found.options (found : Found) (options : Options) : Options :=
  options.forSheet found.source.identifier found.resolver

/-- **What the places have** for a reference: the first with a sheet or a broken file decides. -/
def SearchPlace.first (reference : String) :
    List SearchPlace → Except CompileError (Option Found)
  | [] => .ok none
  | place :: rest =>
    match place.lookup reference with
    | .error error => .error error
    | .ok (some source) => .ok (some ⟨source, place.resolver⟩)
    | .ok none => first reference rest

/-- **What a search finds** under some options, beside the current file or below a load path. -/
def Options.find (options : Options) (reference : String) : Except CompileError (Option Found) :=
  SearchPlace.first reference options.searchPlaces

/-- The places that a search asks: all up to the first that has a sheet or a broken file. -/
def SearchPlace.asked (reference : String) : List SearchPlace → List SearchPlace
  | [] => []
  | place :: rest =>
    match place.lookup reference with
    | .ok none => place :: asked reference rest
    | _ => [place]

namespace Resolver

/-- The error that a broken file fails with. -/
def brokenFile (resolver : Resolver) (path message : String) : CompileError :=
  .raisedBy (.custom message) (some ⟨1, some (resolver.identifier path)⟩) []

/-- A path that has a file names one of the resolver's identifiers. -/
theorem identifier_mem_of_file? {resolver : Resolver} {path : String} {file : SheetFile}
    (h : resolver.file? path = some file) : resolver.identifier path ∈ resolver.identifiers := by
  obtain ⟨front, back, hfiles, -⟩ := List.lookup_eq_some_iff.mp h
  rw [identifiers, hfiles]
  simp

/-- A sheet at a path has an identifier of the resolver. -/
theorem identifier_mem_of_sheetAt {resolver : Resolver} {path : String} {source : SheetSource}
    (h : resolver.sheetAt path = .ok (some source)) :
    source.identifier ∈ resolver.identifiers := by
  rw [sheetAt] at h
  split at h
  · cases h
  · cases h
  · next hfile =>
    cases h
    exact identifier_mem_of_file? hfile

/-- Compiling a path fails for no other reason than that the file there is broken. -/
theorem broken_of_sheetAt {resolver : Resolver} {path : String} {error : CompileError}
    (h : resolver.sheetAt path = .error error) :
    ∃ message, resolver.file? path = some (.broken message) ∧
      error = resolver.brokenFile path message := by
  rw [sheetAt] at h
  split at h
  · cases h
  · next message hfile =>
    cases h
    exact ⟨message, hfile, rfl⟩
  · cases h

/-- What decides a search among some paths stands at one of them. -/
theorem exists_mem_of_findSomeM? {resolver : Resolver}
    {result : Except CompileError (Option SheetSource)} (decided : result ≠ .ok none) :
    ∀ {paths : List String}, paths.findSomeM? resolver.sheetAt = result →
      ∃ path ∈ paths, resolver.sheetAt path = result
  | [], h => absurd h.symm decided
  | path :: rest, h => by
    rw [List.findSomeM?_cons] at h
    rcases hat : resolver.sheetAt path with error | _ | source
    all_goals rw [hat] at h
    · -- A broken file at the first path decides.
      exact ⟨path, List.mem_cons_self, hat.trans h⟩
    · -- Nothing is there: one of the other paths decides.
      obtain ⟨other, hmem, hother⟩ := exists_mem_of_findSomeM? decided h
      exact ⟨other, List.mem_cons_of_mem path hmem, hother⟩
    · -- A sheet at the first path decides.
      exact ⟨path, List.mem_cons_self, hat.trans h⟩

end Resolver

namespace SearchPlace

/-- What decides the lookup in a place stands at a path of its resolver. -/
theorem sheetAt_of_lookup {place : SearchPlace} {reference : String}
    {result : Except CompileError (Option SheetSource)} (decided : result ≠ .ok none)
    (h : place.lookup reference = result) : ∃ path, place.resolver.sheetAt path = result := by
  have hamong : ∀ {resolver : Resolver} {sought : String}, resolver.sheetFor sought = result →
      ∃ path, resolver.sheetAt path = result := by
    intro resolver sought hsought
    obtain ⟨path, -, hpath⟩ := Resolver.exists_mem_of_findSomeM? decided hsought
    exact ⟨path, hpath⟩
  cases place with
  | below resolver => exact hamong h
  | beside resolver origin =>
    rw [lookup, Resolver.sheetBeside] at h
    split at h
    · exact absurd h.symm decided
    · exact hamong h

/-- A sheet that is found was found in one of the places. -/
theorem exists_lookup_of_first {reference : String} {found : Found} :
    ∀ {places : List SearchPlace}, first reference places = .ok (some found) →
      ∃ place ∈ places, place.lookup reference = .ok (some found.source) ∧
        place.resolver = found.resolver
  | place :: rest, h => by
    rw [first] at h
    split at h
    · cases h
    · next source hlookup =>
      cases h
      exact ⟨place, List.mem_cons_self, hlookup, rfl⟩
    · obtain ⟨other, hmem, hother⟩ := exists_lookup_of_first h
      exact ⟨other, List.mem_cons_of_mem place hmem, hother⟩

/-- A search that fails does so in one of the places. -/
theorem exists_lookup_of_first_error {reference : String} {error : CompileError} :
    ∀ {places : List SearchPlace}, first reference places = .error error →
      ∃ place ∈ places, place.lookup reference = .error error
  | place :: rest, h => by
    rw [first] at h
    split at h
    · next hlookup =>
      cases h
      exact ⟨place, List.mem_cons_self, hlookup⟩
    · cases h
    · obtain ⟨other, hmem, hother⟩ := exists_lookup_of_first_error h
      exact ⟨other, List.mem_cons_of_mem place hmem, hother⟩

end SearchPlace

namespace Options

/-- A search asks only the resolvers of its options. -/
theorem resolver_mem_of_mem_searchPlaces {options : Options} {place : SearchPlace}
    (h : place ∈ options.searchPlaces) : place.resolver ∈ options.resolvers := by
  rw [searchPlaces, List.mem_append, List.mem_map] at h
  rw [resolvers, List.mem_append]
  rcases h with h | ⟨resolver, hmem, rfl⟩
  · left
    split at h
    · next importer filename himporter _ =>
      rw [List.mem_singleton] at h
      rw [h, himporter]
      exact List.mem_singleton_self importer
    · cases h
  · exact Or.inr hmem

/-- What a search finds is held by one of the resolvers that it may ask. -/
theorem resolver_mem_of_find {options : Options} {reference : String} {found : Found}
    (h : options.find reference = .ok (some found)) : found.resolver ∈ options.resolvers := by
  obtain ⟨place, hmem, -, hresolver⟩ := SearchPlace.exists_lookup_of_first h
  exact hresolver ▸ resolver_mem_of_mem_searchPlaces hmem

/-- What a search finds is one of the files of the resolver that holds it. -/
theorem identifier_mem_of_find {options : Options} {reference : String} {found : Found}
    (h : options.find reference = .ok (some found)) :
    found.source.identifier ∈ found.resolver.identifiers := by
  obtain ⟨place, -, hlookup, hresolver⟩ := SearchPlace.exists_lookup_of_first h
  obtain ⟨path, hpath⟩ := SearchPlace.sheetAt_of_lookup (by simp) hlookup
  exact Resolver.identifier_mem_of_sheetAt (hresolver ▸ hpath)

/-- A search fails for no other reason than that a file is broken. -/
theorem broken_of_find {options : Options} {reference : String} {error : CompileError}
    (h : options.find reference = .error error) :
    ∃ resolver ∈ options.resolvers, ∃ path message,
      resolver.file? path = some (.broken message) ∧
        error = resolver.brokenFile path message := by
  obtain ⟨place, hmem, hlookup⟩ := SearchPlace.exists_lookup_of_first_error h
  obtain ⟨path, hpath⟩ := SearchPlace.sheetAt_of_lookup (by simp) hlookup
  obtain ⟨message, hfile⟩ := Resolver.broken_of_sheetAt hpath
  exact ⟨place.resolver, resolver_mem_of_mem_searchPlaces hmem, path, message, hfile⟩

/-- A sheet that is entered may ask no resolver that its importer may not ask, but for the one that
holds it. -/
theorem mem_resolvers_forSheet {options : Options} {identifier : String}
    {owner resolver : Resolver} (h : resolver ∈ (options.forSheet identifier owner).resolvers) :
    resolver = owner ∨ resolver ∈ options.resolvers := by
  rw [resolvers, forSheet, List.mem_append] at h
  rcases h with h | h
  · exact Or.inl (List.mem_singleton.mp h)
  · exact Or.inr (List.mem_append_right _ h)

end Options

/-! ## Statements of new sheets -/

namespace Node

/-- The nodes for pieces whose statements are numbered upwards from `key`. -/
def numbered : Nat → List Item → List Node
  | _, [] => []
  | key, .css text :: rest => .css text :: numbered key rest
  | key, .atImport reference line :: rest =>
    .atImport ⟨key, reference, line⟩ :: numbered (key + 1) rest

/-- The number of `@import` statements among some pieces. -/
def importCount : List Item → Nat
  | [] => 0
  | .css _ :: rest => importCount rest
  | .atImport _ _ :: rest => importCount rest + 1

/-- Numbering changes nothing about the pieces. -/
@[simp] theorem map_item_numbered (key : Nat) (items : List Item) :
    (numbered key items).map item = items := by
  fun_induction numbered key items with
  | case1 => rfl
  | case2 key text rest ih => simp [item, ih]
  | case3 key reference line rest ih => simp [item, ih]

/-- The statements of numbered nodes have the keys from `key` up to the number of statements. -/
theorem key_mem_of_mem_numbered {key : Nat} {items : List Item} {statement : ImportStatement}
    (h : .atImport statement ∈ numbered key items) :
    key ≤ statement.key ∧ statement.key < key + importCount items := by
  fun_induction numbered key items with
  | case1 => cases h
  | case2 key text rest ih =>
    rw [List.mem_cons] at h
    rcases h with h | h
    · cases h
    · exact ih h
  | case3 key reference line rest ih =>
    rw [List.mem_cons] at h
    rcases h with h | h
    · -- The first statement has the first key.
      cases h
      simp [importCount]
    · -- The others are numbered from the next key on.
      have hkey := ih h
      rw [importCount]
      omega

/-- A statement with an older key is none of the numbered ones. -/
theorem key_ne_of_mem_numbered {key : Nat} {items : List Item} {older newer : ImportStatement}
    (holder : older.key < key) (hnewer : .atImport newer ∈ numbered key items) :
    older.key ≠ newer.key := by
  have hkey := key_mem_of_mem_numbered hnewer
  omega

/-- Among numbered nodes a key stands for one statement. -/
theorem eq_of_key_eq_of_mem_numbered {key : Nat} {items : List Item}
    {first second : ImportStatement} (hfirst : .atImport first ∈ numbered key items)
    (hsecond : .atImport second ∈ numbered key items) (same : first.key = second.key) :
    first = second := by
  fun_induction numbered key items with
  | case1 => cases hfirst
  | case2 key text rest ih =>
    exact ih (by simpa using hfirst) (by simpa using hsecond)
  | case3 key reference line rest ih =>
    rw [List.mem_cons] at hfirst hsecond
    -- If just one of the two is the first statement, the other has a later key.
    rcases hfirst with hfirst | hfirst <;> rcases hsecond with hsecond | hsecond
    · cases hfirst
      cases hsecond
      rfl
    · cases hfirst
      have hlater := (key_mem_of_mem_numbered hsecond).1
      have hkey : key = second.key := same
      omega
    · cases hsecond
      have hlater := (key_mem_of_mem_numbered hfirst).1
      have hkey : first.key = key := same
      omega
    · exact ih hfirst hsecond

end Node

/-- A statement belongs to a sheet if it is one of the pieces. -/
theorem Sheet.mem_imports {sheet : Sheet} {statement : ImportStatement} :
    statement ∈ sheet.imports ↔ .atImport statement ∈ sheet.children := by
  rw [imports, List.mem_filterMap]
  constructor
  · rintro ⟨_ | _, hmem, hstatement⟩
    · cases hstatement
    · cases hstatement
      exact hmem
  · exact fun h => ⟨_, h, rfl⟩

namespace Imports

/-- The state with a number of further statements taken. -/
def withStatements (imports : Imports) (count : Nat) : Imports :=
  { imports with nextStatement := imports.nextStatement + count }

/-- New nodes are the pieces with the next keys. -/
theorem run_newNodes (items : List Item) (imports : Imports) :
    (newNodes items).run imports =
      (Node.numbered imports.nextStatement items,
        imports.withStatements (Node.importCount items)) := by
  induction items generalizing imports with
  | nil => rfl
  | cons item rest ih =>
    cases item with
    | css text =>
      show (Node.css text :: ((newNodes rest).run imports).1, ((newNodes rest).run imports).2) = _
      rw [ih]
      rfl
    | atImport reference line =>
      -- The rest is made after this statement has taken its key.
      have hrest := ih (imports.withStatements 1)
      show (Node.atImport ⟨imports.nextStatement, reference, line⟩ ::
        ((newNodes rest).run (imports.withStatements 1)).1,
        ((newNodes rest).run (imports.withStatements 1)).2) = _
      rw [hrest]
      simp only [Node.numbered, Node.importCount, withStatements]
      congr 2
      omega

/-! ## The search as a whole -/

/-- The state after a search: the lookups have been logged. -/
def afterSearch (imports : Imports) (reference : String) (options : Options) : Imports :=
  (SearchPlace.asked reference options.searchPlaces).foldl
    (fun imports place => imports.logProbe place.resolver (place.probe reference)) imports

end Imports

/-- The resolution that a search ends with when it has found a sheet: the sheet has new statements,
the first of which gets the key `next`. -/
def Found.resolution (found : Found) (next : Nat) : Resolution :=
  ⟨⟨found.source.identifier, Node.numbered next found.source.items⟩, found.resolver⟩

namespace Imports

/-- Asking a place logs the lookup and makes a sheet of what the place has. -/
theorem run_askPlace (reference : String) (place : SearchPlace) (imports : Imports) :
    (askPlace reference place).run imports =
      let logged := imports.logProbe place.resolver (place.probe reference)
      match place.lookup reference with
      | .error error => (.error error, logged)
      | .ok none => (.ok none, logged)
      | .ok (some source) =>
        (.ok (some (Found.resolution ⟨source, place.resolver⟩ logged.nextStatement)),
          logged.withStatements (Node.importCount source.items)) := by
  -- The lookup is logged whatever the place has.
  let logged := imports.logProbe place.resolver (place.probe reference)
  have hask : (ask reference place).run imports =
      (instantiate (place.lookup reference)).run logged := rfl
  rw [askPlace, run_bind, hask]
  rcases place.lookup reference with error | _ | source
  · rfl
  · rfl
  · show (Except.ok (some (⟨⟨source.identifier, ((newNodes source.items).run logged).1⟩,
      place.resolver⟩ : Resolution)), ((newNodes source.items).run logged).2) = _
    rw [run_newNodes]
    rfl

/-- Asking places in turn finds what the first of them has that has anything, and logs a lookup in
each place asked. -/
theorem run_findSomeM?_askPlace (reference : String) (places : List SearchPlace)
    (imports : Imports) :
    (places.findSomeM? (askPlace reference)).run imports =
      let after := (SearchPlace.asked reference places).foldl
        (fun imports place => imports.logProbe place.resolver (place.probe reference)) imports
      match SearchPlace.first reference places with
      | .error error => (.error error, after)
      | .ok none => (.ok none, after)
      | .ok (some found) =>
        (.ok (some (found.resolution after.nextStatement)),
          after.withStatements (Node.importCount found.source.items)) := by
  induction places generalizing imports with
  | nil => rfl
  | cons place rest ih =>
    rw [List.findSomeM?_cons, run_bind, run_askPlace, SearchPlace.first, SearchPlace.asked]
    rcases place.lookup reference with error | _ | source
    · rfl
    · exact ih (imports.logProbe place.resolver (place.probe reference))
    · rfl

/-- Logging lookups remembers nothing and numbers nothing. -/
theorem foldl_logProbe (reference : String) (places : List SearchPlace) (imports : Imports) :
    ∃ probes, places.foldl
      (fun imports place => imports.logProbe place.resolver (place.probe reference)) imports =
        { imports with probes := probes } := by
  induction places generalizing imports with
  | nil => exact ⟨imports.probes, rfl⟩
  | cons place rest ih => exact ih (imports.logProbe place.resolver (place.probe reference))

@[simp] theorem outcomes_afterSearch (imports : Imports) (reference : String) (options : Options) :
    (imports.afterSearch reference options).outcomes = imports.outcomes := by
  obtain ⟨probes, h⟩ := foldl_logProbe reference
    (SearchPlace.asked reference options.searchPlaces) imports
  rw [afterSearch, h]

@[simp] theorem nextStatement_afterSearch (imports : Imports) (reference : String)
    (options : Options) :
    (imports.afterSearch reference options).nextStatement = imports.nextStatement := by
  obtain ⟨probes, h⟩ := foldl_logProbe reference
    (SearchPlace.asked reference options.searchPlaces) imports
  rw [afterSearch, h]

/-- A search remembers nothing. -/
@[simp] theorem outcome?_afterSearch (imports : Imports) (reference : String) (options : Options)
    (statement : ImportStatement) :
    (imports.afterSearch reference options).outcome? statement = imports.outcome? statement := by
  rw [outcome?, outcomes_afterSearch, outcome?]

/-- **A search** finds what the files say, numbers its statements, and logs its lookups. -/
theorem run_searchFor (reference : String) (options : Options) (imports : Imports) :
    (searchFor reference options).run imports =
      let after := imports.afterSearch reference options
      match options.find reference with
      | .error error => (.error error, after)
      | .ok none => (.ok none, after)
      | .ok (some found) =>
        (.ok (some (found.resolution imports.nextStatement)),
          after.withStatements (Node.importCount found.source.items)) := by
  rw [← nextStatement_afterSearch imports reference options]
  exact run_findSomeM?_askPlace reference options.searchPlaces imports

end Imports

/-! ## The query for an outcome -/

namespace ImportStatement

/-- The state after a search for the statement has been completed with an outcome, for which it has
taken a number of new statements. -/
def settled (statement : ImportStatement) (options : Options) (count : Nat)
    (outcome : Option Resolution) (imports : Imports) : Imports :=
  ((imports.afterSearch statement.reference options).withStatements count).settle statement outcome

@[simp] theorem nextStatement_settled (statement : ImportStatement) (options : Options)
    (count : Nat) (outcome : Option Resolution) (imports : Imports) :
    (statement.settled options count outcome imports).nextStatement =
      imports.nextStatement + count := by
  show (imports.afterSearch statement.reference options).nextStatement + count = _
  rw [Imports.nextStatement_afterSearch]

/-- **The ways in which the query for the outcome of a statement ends**, with its answer and the
state after it. -/
inductive Answered (statement : ImportStatement) (options : Options) (imports : Imports) :
    Except CompileError (Option Resolution) → Imports → Prop
  /-- The outcome is remembered; nothing is searched. -/
  | remembered {outcome : Option Resolution} (hold : imports.outcome? statement = some outcome) :
    Answered statement options imports (.ok outcome) imports
  /-- A search finds nothing. -/
  | missed (hnew : imports.outcome? statement = none)
    (hfind : options.find statement.reference = .ok none) :
    Answered statement options imports (.ok none) (statement.settled options 0 none imports)
  /-- A search finds a sheet, whose statements are new. -/
  | found {found : Found} (hnew : imports.outcome? statement = none)
    (hfind : options.find statement.reference = .ok (some found)) :
    Answered statement options imports (.ok (some (found.resolution imports.nextStatement)))
      (statement.settled options (Node.importCount found.source.items)
        (some (found.resolution imports.nextStatement)) imports)
  /-- A search meets a broken file. -/
  | failed {error : CompileError} (hnew : imports.outcome? statement = none)
    (hfind : options.find statement.reference = .error error) :
    Answered statement options imports (.error (error.locatedAt (statement.location options)))
      (imports.afterSearch statement.reference options)

/-- Without an outcome that is remembered, the one that a search ends with is remembered. -/
theorem run_findOutcome_of_search {statement : ImportStatement} {options : Options}
    {imports after : Imports} {outcome : Option Resolution}
    (hnew : imports.outcome? statement = none)
    (hsearch : (Imports.searchFor statement.reference options).run imports = (.ok outcome, after)) :
    (statement.findOutcome options).run imports =
      (.ok outcome, after.settle statement outcome) := by
  simp only [ExceptT.run] at hsearch
  simp only [findOutcome, ExceptT.run, hnew, hsearch]

/-- A search that fails does so at the statement, and nothing is remembered. -/
theorem run_findOutcome_of_search_error {statement : ImportStatement} {options : Options}
    {imports after : Imports} {error : CompileError} (hnew : imports.outcome? statement = none)
    (hsearch :
      (Imports.searchFor statement.reference options).run imports = (.error error, after)) :
    (statement.findOutcome options).run imports =
      (.error (error.locatedAt (statement.location options)), after) := by
  simp only [ExceptT.run] at hsearch
  simp only [findOutcome, ExceptT.run, hnew, hsearch]

/-- Every query for an outcome ends in one of these ways. -/
theorem answered_findOutcome (statement : ImportStatement) (options : Options)
    (imports : Imports) :
    statement.Answered options imports ((statement.findOutcome options).run imports).1
      ((statement.findOutcome options).run imports).2 := by
  rcases hnew : imports.outcome? statement with _ | outcome
  · have hsearch := Imports.run_searchFor statement.reference options imports
    rcases hfind : options.find statement.reference with error | _ | found
    all_goals
      rw [hfind] at hsearch
      dsimp only at hsearch
    · rw [run_findOutcome_of_search_error hnew hsearch]
      exact .failed hnew hfind
    · rw [run_findOutcome_of_search hnew hsearch]
      exact .missed hnew hfind
    · rw [run_findOutcome_of_search hnew hsearch]
      exact .found hnew hfind
  · rw [run_findOutcome_of_settled hnew]
    exact .remembered hnew

end ImportStatement

end Stylesheet
