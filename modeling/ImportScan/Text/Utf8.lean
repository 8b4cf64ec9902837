/-!
# UTF-8

Bytes are read one after the other.  The first byte of a character tells how many more belong to it,
and which may come next; a byte that does not fit ends what has been read of the character and is
read once more, as a first one.  Bytes that belong to no character are shown by a sign of their own.

## Main definitions

* `textBytes` — the bytes of a text.
* `readUtf8` — the characters of some bytes, with gaps where the bytes belong to none.
* `isUtf8`, `ofUtf8?`, `shownBytes` — whether bytes are those of a text, this text, and how any bytes
  are shown.

## Main results

* `readUtf8_textBytes` — **the bytes of a text are read as that text**.
-/

namespace ImportScan

/-- The bytes of a text. -/
def textBytes (cs : List Char) : List UInt8 := cs.flatMap String.utf8EncodeChar

@[simp] theorem textBytes_nil : textBytes [] = [] := rfl

@[simp] theorem textBytes_cons (c : Char) (cs : List Char) :
    textBytes (c :: cs) = String.utf8EncodeChar c ++ textBytes cs := List.flatMap_cons

@[simp] theorem textBytes_append (cs ds : List Char) :
    textBytes (cs ++ ds) = textBytes cs ++ textBytes ds := List.flatMap_append

/-! ### Reading bytes -/

/-- A character of which bytes are still to come. -/
structure OpenChar where
  /-- The number of bytes to come behind the next one. -/
  more : Nat
  /-- The least byte that may come next. -/
  least : Nat
  /-- The greatest byte that may come next. -/
  greatest : Nat
  /-- The number that the bytes read so far make up. -/
  number : Nat
  deriving DecidableEq, Repr, Inhabited

/-- What has been read: some characters, with gaps for bytes that belong to none, and the character
that is still open. -/
abbrev BytesRead := List (Option Char) × Option OpenChar

/-- Read the first byte of a character.  The bounds of the second one leave out what has a shorter
form, the surrogates, and what lies beyond the last character. -/
def readFirst (b : UInt8) : BytesRead :=
  let n := b.toNat
  if n < 0x80 then ([some (Char.ofNat n)], none)
  else if n < 0xc2 then ([none], none)
  else if n < 0xe0 then ([], some ⟨0, 0x80, 0xbf, n - 0xc0⟩)
  else if n < 0xf0 then
    ([], some ⟨1, if n = 0xe0 then 0xa0 else 0x80, if n = 0xed then 0x9f else 0xbf, n - 0xe0⟩)
  else if n < 0xf5 then
    ([], some ⟨2, if n = 0xf0 then 0x90 else 0x80, if n = 0xf4 then 0x8f else 0xbf, n - 0xf0⟩)
  else ([none], none)

/-- Read a byte behind those of an open character, if there is one. -/
def readByte (o : Option OpenChar) (b : UInt8) : BytesRead :=
  match o with
  | none => readFirst b
  | some o =>
    if o.least ≤ b.toNat ∧ b.toNat ≤ o.greatest then
      let number := 64 * o.number + b.toNat % 64
      match o.more with
      | 0 => ([some (Char.ofNat number)], none)
      | more + 1 => ([], some ⟨more, 0x80, 0xbf, number⟩)
    else
      let (cs, next) := readFirst b
      (none :: cs, next)

/-- Read bytes behind those of an open character, if there is one. -/
def readBytes (o : Option OpenChar) : List UInt8 → List (Option Char)
  | [] => if o.isSome then [none] else []
  | b :: bs =>
    let (cs, next) := readByte o b
    cs ++ readBytes next bs

/-- The characters of some bytes, with gaps where the bytes belong to none. -/
def readUtf8 (bs : List UInt8) : List (Option Char) := readBytes none bs

/-- Whether some bytes are those of a text. -/
def isUtf8 (bs : List UInt8) : Bool := (readUtf8 bs).all Option.isSome

/-- The sign for bytes that belong to no character. -/
def replacementChar : Char := '\ufffd'

/-- How some bytes are shown. -/
def shownBytes (bs : List UInt8) : String :=
  String.ofList ((readUtf8 bs).map fun c => c.getD replacementChar)

/-- The text that some bytes are, if they are one. -/
def ofUtf8? (bs : List UInt8) : Option String := if isUtf8 bs then some (shownBytes bs) else none

/-! ### Reading the bytes of a text -/

theorem readBytes_cons_of_none {b : UInt8} {cs : List (Option Char)} {next : Option OpenChar}
    (h : readFirst b = (cs, next)) (bs : List UInt8) :
    readBytes none (b :: bs) = cs ++ readBytes next bs := by
  rw [readBytes, readByte, h]

/-- A byte between the bounds ends the character that waits for no other. -/
theorem readBytes_last {o : OpenChar} {b : UInt8} (hmore : o.more = 0)
    (hb : o.least ≤ b.toNat ∧ b.toNat ≤ o.greatest) (bs : List UInt8) :
    readBytes (some o) (b :: bs)
      = some (Char.ofNat (64 * o.number + b.toNat % 64)) :: readBytes none bs := by
  rw [readBytes, readByte]
  dsimp only
  rw [if_pos hb, hmore]
  rfl

theorem readBytes_next {o : OpenChar} {more : Nat} {b : UInt8} (hmore : o.more = more + 1)
    (hb : o.least ≤ b.toNat ∧ b.toNat ≤ o.greatest) (bs : List UInt8) :
    readBytes (some o) (b :: bs)
      = readBytes (some ⟨more, 0x80, 0xbf, 64 * o.number + b.toNat % 64⟩) bs := by
  rw [readBytes, readByte]
  dsimp only
  rw [if_pos hb, hmore]
  rfl

theorem toNat_ofNat_of_lt {n : Nat} (h : n < 256) : (UInt8.ofNat n).toNat = n := by
  rw [UInt8.toNat_ofNat']
  exact Nat.mod_eq_of_lt h

/-- The bytes of a character are read as that character, whatever follows. -/
theorem readBytes_encode (c : Char) (bs : List UInt8) :
    readBytes none (String.utf8EncodeChar c ++ bs) = some c :: readBytes none bs := by
  have hvalid : c.toNat < 0xd800 ∨ 0xdfff < c.toNat ∧ c.toNat < 0x110000 := c.valid
  have hchar : Char.ofNat c.toNat = c := Char.ofNat_toNat c
  have hval : c.val.toNat = c.toNat := rfl
  rw [String.utf8EncodeChar, hval]
  generalize c.toNat = n at hvalid hchar
  -- a byte that is not the first one has six bits of the character
  have htail : ∀ m, (UInt8.ofNat (m % 64 + 128)).toNat = m % 64 + 128 := fun m =>
    toNat_ofNat_of_lt (by omega)
  have hbounds : ∀ m, 0x80 ≤ (UInt8.ofNat (m % 64 + 128)).toNat ∧
      (UInt8.ofNat (m % 64 + 128)).toNat ≤ 0xbf := fun m => by
    rw [htail]
    omega
  split
  · have hb := toNat_ofNat_of_lt (n := n) (by omega)
    have hfirst : readFirst (UInt8.ofNat n) = ([some c], none) := by
      rw [readFirst, hb, if_pos (by omega), hchar]
    rw [List.singleton_append, readBytes_cons_of_none hfirst]
    rfl
  split
  · have hb := toNat_ofNat_of_lt (n := n / 64 % 32 + 192) (by omega)
    have hfirst : readFirst (UInt8.ofNat (n / 64 % 32 + 192))
        = ([], some ⟨0, 0x80, 0xbf, n / 64⟩) := by
      rw [readFirst, hb, if_neg (by omega), if_neg (by omega), if_pos (by omega)]
      simp
      omega
    rw [List.cons_append, List.singleton_append, readBytes_cons_of_none hfirst, List.nil_append,
      readBytes_last rfl (hbounds _), htail]
    dsimp only
    rw [show 64 * (n / 64) + (n % 64 + 128) % 64 = n by omega, hchar]
  split
  · have hb := toNat_ofNat_of_lt (n := n / 4096 % 16 + 224) (by omega)
    obtain ⟨least, greatest, hfirst, hleast, hgreatest⟩ : ∃ least greatest,
        readFirst (UInt8.ofNat (n / 4096 % 16 + 224))
          = ([], some ⟨1, least, greatest, n / 4096⟩) ∧
        least ≤ (UInt8.ofNat (n / 64 % 64 + 128)).toNat ∧
        (UInt8.ofNat (n / 64 % 64 + 128)).toNat ≤ greatest := by
      rw [htail, readFirst, hb, if_neg (by omega), if_neg (by omega), if_neg (by omega),
        if_pos (by omega), show n / 4096 % 16 + 224 - 0xe0 = n / 4096 by omega]
      refine ⟨_, _, rfl, ?_, ?_⟩ <;> split <;> omega
    rw [List.cons_append, List.cons_append, List.singleton_append,
      readBytes_cons_of_none hfirst, List.nil_append,
      readBytes_next rfl ⟨hleast, hgreatest⟩,
      readBytes_last rfl (hbounds _), htail, htail]
    dsimp only
    rw [show 64 * (64 * (n / 4096) + (n / 64 % 64 + 128) % 64) + (n % 64 + 128) % 64 = n by omega,
      hchar]
  · have hb := toNat_ofNat_of_lt (n := n / 262144 % 8 + 240) (by omega)
    obtain ⟨least, greatest, hfirst, hleast, hgreatest⟩ : ∃ least greatest,
        readFirst (UInt8.ofNat (n / 262144 % 8 + 240))
          = ([], some ⟨2, least, greatest, n / 262144⟩) ∧
        least ≤ (UInt8.ofNat (n / 4096 % 64 + 128)).toNat ∧
        (UInt8.ofNat (n / 4096 % 64 + 128)).toNat ≤ greatest := by
      rw [htail, readFirst, hb, if_neg (by omega), if_neg (by omega), if_neg (by omega),
        if_neg (by omega), if_pos (by omega),
        show n / 262144 % 8 + 240 - 0xf0 = n / 262144 by omega]
      refine ⟨_, _, rfl, ?_, ?_⟩ <;> split <;> omega
    rw [List.cons_append, List.cons_append, List.cons_append, List.singleton_append,
      readBytes_cons_of_none hfirst, List.nil_append,
      readBytes_next rfl ⟨hleast, hgreatest⟩,
      readBytes_next rfl (hbounds _),
      readBytes_last rfl (hbounds _), htail, htail, htail]
    dsimp only
    rw [show 64 * (64 * (64 * (n / 262144) + (n / 4096 % 64 + 128) % 64) + (n / 64 % 64 + 128) % 64)
      + (n % 64 + 128) % 64 = n by omega, hchar]

/-- **The bytes of a text are read as that text.** -/
theorem readUtf8_textBytes (cs : List Char) : readUtf8 (textBytes cs) = cs.map some := by
  induction cs with
  | nil => rfl
  | cons c cs ih => rw [readUtf8, textBytes_cons, readBytes_encode, ← readUtf8, ih, List.map_cons]

theorem isUtf8_textBytes (cs : List Char) : isUtf8 (textBytes cs) = true := by
  rw [isUtf8, readUtf8_textBytes]
  simp

theorem shownBytes_textBytes (cs : List Char) : shownBytes (textBytes cs) = String.ofList cs := by
  rw [shownBytes, readUtf8_textBytes, List.map_map]
  exact congrArg String.ofList (List.map_id cs)

theorem ofUtf8?_textBytes (cs : List Char) : ofUtf8? (textBytes cs) = some (String.ofList cs) := by
  rw [ofUtf8?, if_pos (isUtf8_textBytes cs), shownBytes_textBytes]

/-- A byte that starts no character has a sign of its own, and so have the bytes of a character that
is broken off. -/
example : shownBytes [0x61, 0xff, 0xe2, 0x82, 0x2e] = "a\ufffd\ufffd." := by decide

end ImportScan
