import UserDirectory.Json.Value

/-!
# Records

Reading a record with named fields from an object or from an array.

## Forms

In an object the fields come in any order, each once; members with other names are passed over. In
an array the values of the fields come in the order of their declaration, and nothing else.

A record is described by its `Shape`: its title, the fields in order, and a *draft*, the record with
some of its fields still open. Reading a field gives the change it makes to the draft.

## Which fault is reported

Reading goes from left to right and stops at the first fault. A repeated field is a fault as soon as
its name has been read. Absent fields show when the object closes, and the first of them in the
order of declaration is named.
-/

namespace UserDirectory.Json

/-- A field of a record, seen from the draft `δ` that it fills. -/
structure Field (δ : Type) where
  name : String
  /-- Whether the draft has the field already. -/
  filled : δ → Bool
  /-- Reads a value for the field. -/
  read : List Char → Except Error ((δ → δ) × List Char)
  /-- Reading a value makes the text shorter. -/
  read_length : ∀ {s r : List Char} {fill : δ → δ}, read s = .ok (fill, r) → r.length < s.length

/-- A kind of record `α` and how it is drafted. -/
structure Shape (δ α : Type) where
  title : String
  fields : List (Field δ)
  /-- The draft without any field. -/
  blank : δ
  /-- The record, if the draft has all of its fields. -/
  finish : δ → Except Fault α

variable {δ α β : Type}

/-- A field whose value is read by `read` and put into the draft by `fill`. -/
def Field.of (name : String) (filled : δ → Bool) (fill : β → δ → δ)
    (read : List Char → Except Error (β × List Char))
    (read_length : ∀ {s r : List Char} {b : β}, read s = .ok (b, r) → r.length < s.length) :
    Field δ where
  name := name
  filled := filled
  read s :=
    match read s with
    | .error e => .error e
    | .ok (b, s) => .ok (fill b, s)
  read_length h := by
    split at h
    · simp at h
    · next hr =>
      simp only [Except.ok.injEq, Prod.mk.injEq] at h
      exact h.2 ▸ read_length hr

/-- The field of that name. -/
def Shape.field? (shape : Shape δ α) (name : List Char) : Option (Field δ) :=
  shape.fields.find? fun f => f.name.toList = name

/-! ## Arrays -/

/-- Goes to the next item of an array: the text at its first character, or `none` at the closing
bracket. -/
def nextItem (isFirst : Bool) (s : List Char) : Except Error (Option (List Char)) :=
  match skipBlanks s with
  | [] => .error .eof
  | c :: r =>
    if c = ']' then .ok none
    else if isFirst then .ok (some (c :: r))
    else if c = ',' then
      match skipBlanks r with
      | [] => .error .eof
      | d :: r => if d = ']' then .error .malformed else .ok (some (d :: r))
    else .error .malformed

/-- Reads the bracket that closes an array. -/
def closeArray (s : List Char) : Except Error (List Char) :=
  match skipBlanks s with
  | [] => .error .eof
  | c :: s => if c = ']' then .ok s else .error .malformed

/-- Reads the values of the remaining fields from an array, of which `count` have been read. -/
def Shape.readItems (shape : Shape δ α) :
    List (Field δ) → (count : Nat) → δ → List Char → Except Error (δ × List Char)
  | [], _, draft, s => .ok (draft, s)
  | f :: fields, count, draft, s =>
    match nextItem (count = 0) s with
    | .error e => .error e
    | .ok none => .error (.data (.invalidLength count shape.title shape.fields.length))
    | .ok (some s) =>
      match f.read s with
      | .error e => .error e
      | .ok (fill, s) => shape.readItems fields (count + 1) (fill draft) s

/-- Reads a record from an array after its opening bracket. -/
def Shape.readArray (shape : Shape δ α) (s : List Char) : Except Error (α × List Char) :=
  match shape.readItems shape.fields 0 shape.blank s with
  | .error e => .error e
  | .ok (draft, s) =>
    match shape.finish draft with
    | .error fault => .error (.data fault)
    | .ok record =>
      match closeArray s with
      | .error e => .error e
      | .ok s => .ok (record, s)

/-! ## Objects -/

/-- Where a member of an object may stand. -/
inductive Member where
  /-- The key's text after its opening quote. -/
  | key (s : List Char)
  /-- The text after the closing brace. -/
  | close (s : List Char)

/-- Goes to the next member of an object. -/
def nextMember (isFirst : Bool) (s : List Char) : Except Error Member :=
  match skipBlanks s with
  | [] => .error .eof
  | c :: r =>
    if c = '}' then .ok (.close r)
    else if isFirst then if c = '"' then .ok (.key r) else .error .malformed
    else if c = ',' then
      match skipBlanks r with
      | [] => .error .eof
      | d :: r => if d = '"' then .ok (.key r) else .error .malformed
    else .error .malformed

theorem nextMember_length {isFirst : Bool} {s r : List Char}
    (h : nextMember isFirst s = .ok (.key r)) : r.length < s.length := by
  unfold nextMember at h
  split at h
  · simp at h
  · next hb =>
    have := skipBlanks_cons_length hb
    split at h
    · simp at h
    · split at h
      · split at h
        · simp only [Except.ok.injEq, Member.key.injEq] at h
          rw [← h]
          exact this
        · simp at h
      · split at h
        · split at h
          · simp at h
          · next hb' =>
            have := skipBlanks_cons_length hb'
            split at h
            · simp only [Except.ok.injEq, Member.key.injEq] at h
              rw [← h]
              omega
            · simp at h
        · simp at h

/-- Reads a member after the opening quote of its key, and gives the change it makes. -/
def Shape.readMember (shape : Shape δ α) (draft : δ) (s : List Char) :
    Except Error ((δ → δ) × List Char) :=
  match readString [] s with
  | .error e => .error e
  | .ok (name, s) =>
    match shape.field? name with
    | some f =>
      if f.filled draft then .error (.data (.duplicateField f.name))
      else
        match colon s with
        | .error e => .error e
        | .ok s => f.read s
    | none =>
      match colon s with
      | .error e => .error e
      | .ok s =>
        match skipValue s with
        | .error e => .error e
        | .ok s => .ok (id, s)

theorem Shape.readMember_length {shape : Shape δ α} {draft : δ} {s r : List Char} {fill : δ → δ}
    (h : shape.readMember draft s = .ok (fill, r)) : r.length < s.length := by
  unfold Shape.readMember at h
  split at h
  · simp at h
  · next hk =>
    have := readString_length hk
    split at h
    · split at h
      · simp at h
      · split at h
        · simp at h
        · next hc =>
          have := colon_length hc
          have := Field.read_length _ h
          omega
    · split at h
      · simp at h
      · next hc =>
        have := colon_length hc
        split at h
        · simp at h
        · next hv =>
          have := skipValue_length hv
          simp only [Except.ok.injEq, Prod.mk.injEq] at h
          rw [← h.2]
          omega

/-- Reads the members of an object up to its closing brace. -/
def Shape.readMembers (shape : Shape δ α) (isFirst : Bool) (draft : δ) (s : List Char) :
    Except Error (δ × List Char) :=
  match _hk : nextMember isFirst s with
  | .error e => .error e
  | .ok (.close s) => .ok (draft, s)
  | .ok (.key s') =>
    match _hm : shape.readMember draft s' with
    | .error e => .error e
    | .ok (fill, s'') => shape.readMembers false (fill draft) s''
termination_by s.length
decreasing_by
  have := nextMember_length _hk
  have := Shape.readMember_length _hm
  omega

/-- Reads a record from an object after its opening brace. -/
def Shape.readObject (shape : Shape δ α) (s : List Char) : Except Error (α × List Char) :=
  match shape.readMembers true shape.blank s with
  | .error e => .error e
  | .ok (draft, s) =>
    match shape.finish draft with
    | .error fault => .error (.data fault)
    | .ok record => .ok (record, s)

/-! ## Whole texts -/

/-- Reads a record at the front of a text. -/
def Shape.readRecord (shape : Shape δ α) (s : List Char) : Except Error (α × List Char) :=
  match skipBlanks s with
  | [] => .error .eof
  | c :: s =>
    if c = '[' then shape.readArray s
    else if c = '{' then shape.readObject s
    else .error (unexpected ("struct " ++ shape.title) c s)

/-- Reads a text that is one record, with blanks around it. -/
def Shape.read (shape : Shape δ α) (s : List Char) : Except Error α :=
  match shape.readRecord s with
  | .error e => .error e
  | .ok (record, s) => if (skipBlanks s).isEmpty then .ok record else .error .malformed

end UserDirectory.Json
