import TypingPolicy.Text
import TypingPolicy.Value

/-!
# Settings as written

The settings of a configuration table, before they become a policy.  Each of the six settings goes by
several names, of which the first one present counts, even if what stands there is unusable.
`Settings.ofTable` checks a whole table and either returns all settings or lists every problem, in the
order of the settings and, within a list, of its items.
-/

namespace TypingPolicy

/-! ## 1. Problems -/

/-- Why a value cannot be used. -/
inductive Complaint where
  | notATable
  | notABoolean
  | unclearBoolean
  | notAList
  | notATuple
  | notAText
  | frozen
  deriving DecidableEq, Repr, Inhabited

namespace Complaint

def code : Complaint → String
  | .notATable => "model_type"
  | .notABoolean => "bool_type"
  | .unclearBoolean => "bool_parsing"
  | .notAList => "list_type"
  | .notATuple => "tuple_type"
  | .notAText => "string_type"
  | .frozen => "frozen_instance"

def message : Complaint → String
  | .notATable => "Input should be a valid dictionary or instance of RawConfig"
  | .notABoolean => "Input should be a valid boolean"
  | .unclearBoolean => "Input should be a valid boolean, unable to interpret input"
  | .notAList => "Input should be a valid list"
  | .notATuple => "Input should be a valid tuple"
  | .notAText => "Input should be a valid string"
  | .frozen => "Instance is frozen"

end Complaint

/-- Where a problem lies: at a key, at an item of the list under a key, or in the whole input. -/
inductive Place where
  | whole
  | key (name : String)
  | item (name : String) (index : Nat)
  deriving DecidableEq, Repr, Inhabited

structure Problem where
  complaint : Complaint
  place : Place
  deriving DecidableEq, Repr, Inhabited

/-! ## 2. Single values -/

/-- The words that mean a truth value, in any case. -/
def wordToBool? (s : String) : Option Bool :=
  let word := Text.lowerAscii s
  if word ∈ ["1", "on", "t", "true", "y", "yes"] then some true
  else if word ∈ ["0", "off", "f", "false", "n", "no"] then some false
  else none

/-- The end of the signed 64-bit range: two to the power of 63. -/
def wordEnd : Int := 9223372036854775808

/-- An integer means a truth value if it is zero or one.  One that needs more than 64 bits is not
even looked at. -/
def intToBool (n : Int) : Except Complaint Bool :=
  if n = 0 then .ok false
  else if n = 1 then .ok true
  else if -wordEnd ≤ n ∧ n < wordEnd then .error .unclearBoolean
  else .error .notABoolean

/-- A fraction counts by its amount if it is a whole number strictly between the ends of the signed
64-bit range. -/
def floatToBool (x : Binary64) : Except Complaint Bool :=
  match x.toInt? with
  | some n => if -wordEnd < n then intToBool n else .error .notABoolean
  | none => .error .notABoolean

/-- The truth value that a value stands for. -/
def toBool : Value → Except Complaint Bool
  | .bool b => .ok b
  | .int n => intToBool n
  | .float x => floatToBool x
  | .text s => (wordToBool? s).elim (.error .unclearBoolean) .ok
  | _ => .error .notABoolean

def toText? : Value → Option String
  | .text s => some s
  | _ => none

/-! ## 3. One setting -/

/-- What reading a setting gives: a value, and the problems on the way. -/
structure Reading (α : Type) where
  value : α
  problems : List Problem := []
  deriving Repr

namespace Reading

def fail (value : α) (complaint : Complaint) (key : String) : Reading α :=
  ⟨value, [⟨complaint, .key key⟩]⟩

end Reading

/-- The first of the names that is present, with what stands under it. -/
def select (t : Table) (names : List String) : Option (String × Value) :=
  names.findSome? fun name => (t.get? name).map (name, ·)

def readFlag (key : String) (v : Value) : Reading (Option Bool) :=
  match toBool v with
  | .ok b => ⟨some b, []⟩
  | .error complaint => .fail none complaint key

/-- One problem for each item, counted from `start`, that is not a text. -/
def itemProblems (key : String) (start : Nat) : List Value → List Problem
  | [] => []
  | v :: rest =>
    (if (toText? v).isSome then [] else [⟨.notAText, .item key start⟩])
      ++ itemProblems key (start + 1) rest

/-- `shape` is the complaint about a value that is no list at all. -/
def readNames (shape : Complaint) (key : String) (v : Value) : Reading (Option (List String)) :=
  match v with
  | .list items => ⟨some (items.filterMap toText?), itemProblems key 0 items⟩
  | _ => .fail none shape key

/-- A setting that is absent or null is left open. -/
def readOptional (read : String → Value → Reading (Option α)) (names : List String) (t : Table) :
    Reading (Option α) :=
  match select t names with
  | none | some (_, .null) => ⟨none, []⟩
  | some (key, v) => read key v

/-! ## 4. All settings -/

structure Settings where
  disableDynamicCompile : Option Bool := none
  dynamicCompileWhitelist : Option (List String) := none
  compileStaticExtensions : Option (List String) := none
  limitCompileStaticExtensions : Option Bool := none
  defAllowed : Option Bool := none
  skipDefaultPackage : Option Bool := none
  deriving DecidableEq, Repr, Inhabited

namespace Settings

/-! The names of each setting, the preferred one first. -/

def disableNames : List String := ["disableDynamicCompile", "disable_dynamic_compile"]

def whitelistNames : List String :=
  ["dynamicCompileWhiteList", "dynamicCompileWhitelist", "dynamic_compile_whitelist"]

def extensionsNames : List String := ["compileStaticExtensions", "compile_static_extensions"]

def limitNames : List String := ["limitCompileStaticExtensions", "limit_compile_static_extensions"]

def defNames : List String := ["defAllowed", "def_allowed"]

def skipNames : List String := ["skipDefaultPackage", "skip_default_package"]

/-- Reads every setting of a table; keys that name no setting are not looked at. -/
def readTable (t : Table) : Reading Settings :=
  let disable := readOptional readFlag disableNames t
  let whitelist := readOptional (readNames .notAList) whitelistNames t
  let extensions := readOptional (readNames .notAList) extensionsNames t
  let limit := readOptional readFlag limitNames t
  let defs := readOptional readFlag defNames t
  let skip := readOptional readFlag skipNames t
  { value := ⟨disable.value, whitelist.value, extensions.value, limit.value, defs.value, skip.value⟩
    problems := disable.problems ++ whitelist.problems ++ extensions.problems ++ limit.problems
      ++ defs.problems ++ skip.problems }

/-- All settings of a table, or all that is wrong with it. -/
def ofTable (t : Table) : Except (List Problem) Settings :=
  let reading := readTable t
  if reading.problems = [] then .ok reading.value else .error reading.problems

/-- Settings are written in a table and in nothing else. -/
def ofValue : Value → Except (List Problem) Settings
  | .table t => ofTable t
  | _ => .error [⟨.notATable, .whole⟩]

end Settings

end TypingPolicy
