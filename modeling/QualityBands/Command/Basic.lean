import QualityBands.Files.Path

/-!
What can be asked for on the command line.
-/

namespace QualityBands

inductive Verb where
  | validate
  | generate
  | normalize
  deriving DecidableEq

namespace Verb

def all : List Verb := [validate, generate, normalize]

def name : Verb → String
  | validate => "validate"
  | generate => "generate"
  | normalize => "normalize"

def ofName? (name : String) : Option Verb := all.find? (·.name = name)

end Verb

inductive Format where
  | yaml
  | json
  deriving DecidableEq

def Format.ofName? : String → Option Format
  | "yaml" => some yaml
  | "json" => some json
  | _ => none

inductive Command where
  | validate (config : Path)
  | generate (config out : Path) (fragments : Option Path)
  | normalize (config : Path) (format : Format)
  deriving DecidableEq

/-- How much is said about the work. -/
structure Verbosity where
  quiet : Bool
  verbose : Bool
  deriving DecidableEq

structure Request where
  command : Command
  verbosity : Verbosity
  deriving DecidableEq

end QualityBands
