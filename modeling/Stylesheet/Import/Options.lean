import Stylesheet.Import.Resolver

/-! # Options

The configuration under which a sheet is compiled. Options never change; descending into an
imported sheet derives new ones. A **snapshot** is a set of options with an identity, which scopes
share. -/

namespace Stylesheet

/-- The configuration of one compilation. -/
structure Options where
  /-- The file that is compiled; text that was supplied directly has none. -/
  filename : Option String
  /-- The resolver that the file came from, asked first for what the file imports. -/
  importer : Option Resolver
  /-- The resolvers of the search path, in order. -/
  loadPaths : List Resolver
  /-- Warnings are muted. -/
  quiet : Bool

/-- Options that several scopes share. -/
structure Snapshot where
  /-- The identity of the snapshot. -/
  key : Nat
  /-- The options. -/
  options : Options

namespace Options

/-- Options with nothing set. -/
def default : Options := ⟨none, none, [], false⟩

/-- The names of the load paths, in search order. -/
def pathNames (options : Options) : List String :=
  options.loadPaths.map Resolver.root

/-- The options for a sheet that `resolver` has found: the sheet becomes the current file and the
resolver its importer, and all else is carried over. -/
def forSheet (options : Options) (identifier : String) (resolver : Resolver) : Options :=
  { options with filename := some identifier, importer := some resolver }

/-- All resolvers that a search under these options may ask. -/
def resolvers (options : Options) : List Resolver :=
  options.importer.toList ++ options.loadPaths

end Options

/-- Where the statement stands in the file that `options` describe. -/
def ImportStatement.location (statement : ImportStatement) (options : Options) :
    Location :=
  ⟨statement.line, options.filename⟩

end Stylesheet
