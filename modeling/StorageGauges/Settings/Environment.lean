import StorageGauges.Settings.Value

/-!
# Environments

Settings are variables of the environment. A setting is found by its name in
lower case, however the variable spells it. A variable whose name is a path
that begins with a setting, such as `gc_interval.x` or `log_level[0]`, puts
something inside that setting, which then has no value that could be used.

## Main definitions

* `Settings.Environment`: Variables with their texts.
* `Settings.Environment.isNested`: A variable puts something inside a setting.
* `Settings.Environment.find?`: The value of a setting.
* `Settings.Environment.read?`: A setting of some type.
-/

namespace StorageGauges

namespace Settings

/-- Variables with their texts. -/
abbrev Environment := List (String × String)

namespace Environment

/-- A character of a name in a path. -/
def isNameChar (c : Char) : Bool :=
  c.isAlphanum || c = '_' || c = '-'

/-- A text that is a step of a path: a point and a name, or a number in
    brackets. What follows the step is left. -/
def takeStep? : List Char → Option (List Char)
  | '.' :: rest =>
    if (rest.takeWhile isNameChar).isEmpty then none else some (rest.dropWhile isNameChar)
  | '[' :: rest =>
    let digits := match rest with
      | '-' :: r => r
      | r => r
    match digits.dropWhile Char.isDigit with
    | ']' :: after => if (digits.takeWhile Char.isDigit).isEmpty then none else some after
    | _ => none
  | _ => none

/-- A text of steps, of which there are at most `count`. -/
def isSteps : Nat → List Char → Bool
  | _, [] => true
  | 0, _ => false
  | count + 1, s =>
    match takeStep? s with
    | some rest => isSteps count rest
    | none => false

/-- A name is a path that begins with a setting and goes on. -/
def leadsInto (setting name : String) : Bool :=
  let s := (lowered name).toList
  let steps := s.dropWhile isNameChar
  decide (String.ofList (s.takeWhile isNameChar) = setting) && !steps.isEmpty
    && isSteps s.length steps

/-- A variable puts something inside a setting. -/
def isNested (env : Environment) (setting : String) : Bool :=
  env.any fun v => leadsInto setting v.1

/-- The value of a setting. -/
def find? (env : Environment) (setting : String) : Option Value :=
  (env.reverse.find? fun v => lowered v.1 = setting).map fun v => .ofText v.2

/-- A setting of some type, or its default when there is no variable for
    it. -/
def read? {α : Type} (env : Environment) (setting : String) (convert : Value → Option α)
    (default : α) : Option α :=
  if env.isNested setting then none
  else
    match env.find? setting with
    | some v => convert v
    | none => some default

end Environment

end Settings

end StorageGauges
