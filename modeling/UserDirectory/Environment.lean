import UserDirectory.Text.Utf8

/-!
# Environments

The variables of a process, with byte strings as values. A value may or may not be text, but it
never holds a NUL.

## Entries

A process gets its variables as entries `name=value`, and a name reaches to the first equals sign.
Asking for a name is asking for what follows it and an equals sign in an entry, so a name asked for
may itself reach beyond an equals sign (`named?`).

Main statement: setting a variable changes the value under its name and no other (`get?_set`).
-/

namespace UserDirectory

/-- A variable of a process. -/
structure Variable where
  name : String
  value : List UInt8
  /-- A value holds no NUL. -/
  zero_notMem : 0 ∉ value

/-- The variable that an entry `name=value` stands for; none if the entry holds a NUL. -/
def Variable.ofEntry? (entry : List UInt8) : Option Variable :=
  if h : 0 ∈ entry then none
  else some {
    name := String.ofList (Utf8.decodeLossy (entry.takeWhile (· ≠ 0x3D)))
    value := (entry.dropWhile (· ≠ 0x3D)).drop 1
    zero_notMem := fun hz =>
      h (((List.drop_sublist 1 _).trans (List.dropWhile_sublist _)).subset hz) }

/-- The variables of a process. -/
structure Environment where
  vars : List Variable

namespace Environment

/-- The environment without variables. -/
def empty : Environment := ⟨[]⟩

/-- The value of a variable, if it is set. -/
def get? (env : Environment) (name : String) : Option (List UInt8) :=
  (env.vars.find? (·.name = name)).map Variable.value

/-- The value of a variable, if it is set and is text. -/
def text? (env : Environment) (name : String) : Option (List Char) :=
  (env.get? name).bind Utf8.decode?

/-- Puts a variable in the place of the first one of its name, or else at the end. -/
def put (v : Variable) : List Variable → List Variable
  | [] => [v]
  | w :: vars => if w.name = v.name then v :: vars else w :: put v vars

/-- Sets a variable. -/
def set (env : Environment) (v : Variable) : Environment := ⟨put v env.vars⟩

/-- Setting a variable changes the value under its name and no other. -/
theorem get?_set (env : Environment) (v : Variable) (name : String) :
    (env.set v).get? name = if v.name = name then some v.value else env.get? name := by
  obtain ⟨vars⟩ := env
  simp only [get?, set]
  induction vars with
  | nil => by_cases h : v.name = name <;> simp [put, h]
  | cons w vars ih =>
    rw [put]
    split
    · next hw => by_cases h : v.name = name <;> simp [hw, h]
    · next hw =>
      by_cases hn : w.name = name
      · have h : v.name ≠ name := fun h => hw (hn.trans h.symm)
        simp [hn, h]
      · simpa [hn] using ih

/-- The value that a name stands for when it may reach beyond an equals sign: `A=B` stands for `C`
where `A` is set to `B=C`. Nothing has the empty name. -/
def named? (env : Environment) (name : List Char) : Option (List UInt8) :=
  match name.dropWhile (· ≠ '=') with
  | [] => if name.isEmpty then none else env.get? (String.ofList name)
  | _ :: rest =>
    env.vars.findSome? fun v =>
      if v.name.toList = name.takeWhile (· ≠ '=') then
        (Utf8.encode (rest ++ ['='])).isPrefixOf? v.value
      else none

end Environment

end UserDirectory
