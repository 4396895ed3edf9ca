/-!
# UTF-8

Reading octets as characters. Octets that begin no well-formed character are cut into
maximal runs that could still have become one, and each such run counts as a single
error: strict reading refuses a text with an error, lossy reading puts one
replacement character for each.

## Main definitions

* `units`: the characters and the errors of an octet sequence, in order.
* `decode?`: strict reading.
* `decodeLossy`: reading with replacement characters.

**Main statement.** Where strict reading succeeds, lossy reading agrees (`decodeLossy_eq`).
-/
namespace ServerLaunch.Text.Utf8

/-- Whether the octet continues a character. -/
def isTail (b : UInt8) : Bool := 0x80 ≤ b && b ≤ 0xBF

/-- The least second octet after the lead octet of a three or four octet character: no
longer form than needed, no surrogate. -/
def secondFloor (lead : UInt8) : UInt8 :=
  if lead = 0xE0 then 0xA0 else if lead = 0xF0 then 0x90 else 0x80

/-- The greatest second octet after a lead octet: no surrogate, nothing above U+10FFFF. -/
def secondCeiling (lead : UInt8) : UInt8 :=
  if lead = 0xED then 0x9F else if lead = 0xF4 then 0x8F else 0xBF

/-- Whether the octet may come second after the lead octet. -/
def isSecond (lead b : UInt8) : Bool := secondFloor lead ≤ b && b ≤ secondCeiling lead

/-- The value bits of a tail octet under those that came before. -/
def shiftIn (bits : Nat) (b : UInt8) : Nat := bits * 64 + (b.toNat - 0x80)

/-- The characters of an octet sequence in order, `none` for each maximal run of octets
that begins no well-formed character. -/
def units : List UInt8 → List (Option Char)
  | [] => []
  | a :: rest =>
    if a < 0x80 then some (Char.ofNat a.toNat) :: units rest
    else if 0xC2 ≤ a && a ≤ 0xDF then
      match rest with
      | b :: rest' =>
        if isTail b then some (Char.ofNat (shiftIn (a.toNat - 0xC0) b)) :: units rest'
        else none :: units (b :: rest')
      | [] => [none]
    else if 0xE0 ≤ a && a ≤ 0xEF then
      match rest with
      | b :: rest' =>
        if isSecond a b then
          match rest' with
          | c :: rest'' =>
            if isTail c then
              some (Char.ofNat (shiftIn (shiftIn (a.toNat - 0xE0) b) c)) :: units rest''
            else none :: units (c :: rest'')
          | [] => [none]
        else none :: units (b :: rest')
      | [] => [none]
    else if 0xF0 ≤ a && a ≤ 0xF4 then
      match rest with
      | b :: rest' =>
        if isSecond a b then
          match rest' with
          | c :: rest'' =>
            if isTail c then
              match rest'' with
              | d :: rest''' =>
                if isTail d then
                  some (Char.ofNat (shiftIn (shiftIn (shiftIn (a.toNat - 0xF0) b) c) d))
                    :: units rest'''
                else none :: units (d :: rest''')
              | [] => [none]
            else none :: units (c :: rest'')
          | [] => [none]
        else none :: units (b :: rest')
      | [] => [none]
    else none :: units rest

/-- The character that stands for a run of octets that is none. -/
def replacement : Char := Char.ofNat 0xFFFD

/-- Read octets as text, with a replacement character for each error. -/
def decodeLossy (octets : List UInt8) : List Char :=
  (units octets).map (·.getD replacement)

/-- Read octets as text, or refuse a text with an error in it. -/
def decode? (octets : List UInt8) : Option (List Char) :=
  (units octets).mapM id

/-- Where strict reading succeeds, lossy reading gives the same text. -/
theorem decodeLossy_eq {octets : List UInt8} {cs : List Char} (h : decode? octets = some cs) :
    decodeLossy octets = cs := by
  unfold decode? at h
  unfold decodeLossy
  generalize units octets = us at h ⊢
  induction us generalizing cs with
  | nil => simp_all
  | cons u us ih =>
    cases u with
    | none => simp at h
    | some c =>
      simp only [List.mapM_cons, id_eq, Option.bind_eq_bind, Option.bind_some,
        Option.bind_eq_some_iff, Option.pure_def, Option.some.injEq] at h
      obtain ⟨tail, hus, rfl⟩ := h
      simp [ih hus]

/-- An octet of the ASCII range is a character by itself. -/
theorem units_cons_ascii {b : UInt8} (ascii : b < 0x80) (rest : List UInt8) :
    units (b :: rest) = some (Char.ofNat b.toNat) :: units rest := by
  rw [units.eq_def]
  simp only [ascii, if_true]

theorem decodeLossy_replicate {b : UInt8} (ascii : b < 0x80) (n : Nat) :
    decodeLossy (List.replicate n b) = List.replicate n (Char.ofNat b.toNat) := by
  unfold decodeLossy
  induction n with
  | zero => simp [units]
  | succ n ih =>
    rw [List.replicate_succ, units_cons_ascii ascii, List.map_cons, ih]
    rfl

/-- The octets of a text. -/
def encode (text : String) : List UInt8 := text.toUTF8.toList

end ServerLaunch.Text.Utf8
