/-!
# Texts and their byte offsets

A text is a list of characters. Positions in it are byte offsets of its UTF-8 form, and a position
is meaningful only at a *character boundary*. A `Text` carries, beside its characters, the table of
its boundaries indexed by byte offset, so that looking at what follows or precedes an offset takes
constant time.

Main statements: the table has one entry for each offset up to the length of the text
(`Text.size_eq`), and the boundary found at the byte length of an initial run of characters is the
split of the text there (`Text.boundary?_byteLength`).
-/

set_option autoImplicit false
set_option relaxedAutoImplicit false

namespace Packrat

/-- The number of bytes of a run of characters in UTF-8. -/
def byteLength : List Char → Nat
  | [] => 0
  | c :: rest => c.utf8Size + byteLength rest

@[simp] theorem byteLength_nil : byteLength [] = 0 := rfl

@[simp] theorem byteLength_cons (c : Char) (rest : List Char) :
    byteLength (c :: rest) = c.utf8Size + byteLength rest := rfl

/-- Joining two runs of characters adds their lengths. -/
@[simp] theorem byteLength_append (first second : List Char) :
    byteLength (first ++ second) = byteLength first + byteLength second := by
  induction first with
  | nil => simp
  | cons c rest ih => simp [ih, Nat.add_assoc]

theorem length_le_byteLength (chars : List Char) : chars.length ≤ byteLength chars := by
  induction chars with
  | nil => simp
  | cons c rest ih =>
    have positive := c.utf8Size_pos
    simp only [List.length_cons, byteLength_cons]
    omega

/-- The longest initial run of characters that fits into a number of bytes. -/
def takeBytes : Nat → List Char → List Char
  | _, [] => []
  | room, c :: rest => if c.utf8Size ≤ room then c :: takeBytes (room - c.utf8Size) rest else []

/-- What follows the longest initial run that fits into a number of bytes. -/
def dropBytes : Nat → List Char → List Char
  | _, [] => []
  | room, c :: rest => if c.utf8Size ≤ room then dropBytes (room - c.utf8Size) rest else c :: rest

/-- The run that fits and what follows it make up the whole. -/
theorem takeBytes_append_dropBytes (room : Nat) (chars : List Char) :
    takeBytes room chars ++ dropBytes room chars = chars := by
  induction chars generalizing room with
  | nil => rfl
  | cons c rest ih =>
    simp only [takeBytes, dropBytes]
    split
    · simp [ih]
    · rfl

theorem dropBytes_suffix (room : Nat) (chars : List Char) : dropBytes room chars <:+ chars :=
  ⟨takeBytes room chars, takeBytes_append_dropBytes room chars⟩

/-- A place between two characters: the character before it, if there is one, and the characters
after it. -/
structure Boundary where
  /-- The character just before the place. -/
  before : Option Char
  /-- Everything after the place. -/
  after : List Char
deriving DecidableEq, Repr

/-- The boundaries of a run of characters that follows `before`, one entry for each byte offset and
one for the end; an offset inside a character has none. -/
def boundaries (before : Option Char) : List Char → List (Option Boundary)
  | [] => [some ⟨before, []⟩]
  | c :: rest =>
    some ⟨before, c :: rest⟩ ::
      (List.replicate (c.utf8Size - 1) none ++ boundaries (some c) rest)

/-- There is one entry for each byte and one for the end. -/
theorem length_boundaries (before : Option Char) (chars : List Char) :
    (boundaries before chars).length = byteLength chars + 1 := by
  induction chars generalizing before with
  | nil => rfl
  | cons c rest ih =>
    have positive := c.utf8Size_pos
    simp only [boundaries, List.length_cons, List.length_append, List.length_replicate, ih,
      byteLength_cons]
    omega

/-- The entry at the byte length of an initial run is the split of the text after that run. -/
theorem getElem?_boundaries (before : Option Char) (first second : List Char) :
    (boundaries before (first ++ second))[byteLength first]? =
      some (some ⟨first.getLast?.or before, second⟩) := by
  induction first generalizing before with
  | nil => cases second <;> simp [boundaries]
  | cons c rest ih =>
    have positive := c.utf8Size_pos
    have skip : c.utf8Size + byteLength rest = (c.utf8Size - 1 + byteLength rest) + 1 := by omega
    simp only [List.cons_append, boundaries, byteLength_cons, skip, List.getElem?_cons_succ]
    rw [List.getElem?_append_right (by simp)]
    simp only [List.length_replicate, Nat.add_sub_cancel_left, ih]
    cases rest <;> simp [List.getLast?_cons]

/-- A text: its characters, and the table of its boundaries by byte offset. -/
structure Text where
  /-- The characters in order. -/
  chars : List Char
  /-- The boundary at each byte offset. -/
  table : Array (Option Boundary)
  /-- The table belongs to the characters. -/
  table_eq : table = (boundaries none chars).toArray

namespace Text

def ofChars (chars : List Char) : Text := ⟨chars, (boundaries none chars).toArray, rfl⟩

def ofString (s : String) : Text := ofChars s.toList

def toString (text : Text) : String := String.ofList text.chars

def size (text : Text) : Nat := text.table.size - 1

/-- The boundary at a byte offset; there is none inside a character or past the end. -/
def boundary? (text : Text) (offset : Nat) : Option Boundary := text.table[offset]?.join

/-- The characters from an offset on; none when the offset is no boundary. -/
def rest (text : Text) (offset : Nat) : List Char :=
  match text.boundary? offset with
  | some boundary => boundary.after
  | none => []

def before? (text : Text) (offset : Nat) : Option Char :=
  (text.boundary? offset).bind Boundary.before

/-- An offset is a boundary when a character starts there or the text ends there. -/
def IsBoundary (text : Text) (offset : Nat) : Prop := (text.boundary? offset).isSome

instance (text : Text) (offset : Nat) : Decidable (text.IsBoundary offset) :=
  inferInstanceAs (Decidable ((text.boundary? offset).isSome = true))

def slice (text : Text) (start stop : Nat) : List Char := takeBytes (stop - start) (text.rest start)

/-- The offset of the next character; at the end of the text, one more. -/
def next (text : Text) (offset : Nat) : Nat :=
  match text.rest offset with
  | [] => offset + 1
  | c :: _ => offset + c.utf8Size

@[simp] theorem chars_ofChars (chars : List Char) : (ofChars chars).chars = chars := rfl

/-- The length of a text is the length of its characters. -/
theorem size_eq (text : Text) : text.size = byteLength text.chars := by
  simp [size, text.table_eq, length_boundaries]

/-- The boundary at the byte length of an initial run splits the text after that run. -/
theorem boundary?_byteLength {text : Text} {first second : List Char}
    (split : text.chars = first ++ second) :
    text.boundary? (byteLength first) = some ⟨first.getLast?, second⟩ := by
  simp [boundary?, text.table_eq, split, getElem?_boundaries]

/-- Every offset beyond the current one is reached by going to the next character. -/
theorem lt_next (text : Text) (offset : Nat) : offset < text.next offset := by
  unfold next
  split
  · omega
  · next c _ _ =>
    have positive := c.utf8Size_pos
    omega

end Text

end Packrat
