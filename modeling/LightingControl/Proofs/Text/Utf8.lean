import Mathlib.Data.List.Basic
import LightingControl.Text.Utf8
/-!
# What is read as UTF-8

`encode` puts the bytes of the characters of a text one after the other.  Any bytes are those of some
characters with a rest behind them that begins with no character, and this rest decides: the bytes
are a text if it is empty, and otherwise the fault lies where it begins.
-/

set_option autoImplicit false

namespace LightingControl.Utf8

open String (utf8EncodeChar)

def encode (text : String) : Bytes :=
  text.toList.flatMap utf8EncodeChar

def Valid (bytes : Bytes) : Prop :=
  ∃ text, encode text = bytes

theorem encode_ofList (chars : List Char) :
    encode (String.ofList chars) = chars.flatMap utf8EncodeChar := by
  rw [encode, String.toList_ofList]

theorem valid_flatMap (chars : List Char) : Valid (chars.flatMap utf8EncodeChar) :=
  ⟨String.ofList chars, encode_ofList chars⟩

theorem Valid.exists_chars {bytes : Bytes} (valid : Valid bytes) :
    ∃ chars : List Char, bytes = chars.flatMap utf8EncodeChar := by
  obtain ⟨text, rfl⟩ := valid
  exact ⟨text.toList, rfl⟩

theorem lead_eq_ascii_iff (byte : UInt8) : lead byte = .ascii ↔ byte.toNat < 0x80 := by
  simp only [lead, UInt8.lt_iff_toNat_lt, UInt8.reduceToNat]
  grind

theorem lead_eq_two_iff (byte : UInt8) :
    lead byte = .two ↔ 0xC2 ≤ byte.toNat ∧ byte.toNat < 0xE0 := by
  simp only [lead, UInt8.lt_iff_toNat_lt, UInt8.reduceToNat]
  grind

theorem lead_eq_three_iff (byte : UInt8) :
    lead byte = .three ↔ 0xE0 ≤ byte.toNat ∧ byte.toNat < 0xF0 := by
  simp only [lead, UInt8.lt_iff_toNat_lt, UInt8.reduceToNat]
  grind

theorem lead_eq_four_iff (byte : UInt8) :
    lead byte = .four ↔ 0xF0 ≤ byte.toNat ∧ byte.toNat < 0xF5 := by
  simp only [lead, UInt8.lt_iff_toNat_lt, UInt8.reduceToNat]
  grind

theorem isTail_iff (byte : UInt8) : isTail byte = true ↔ 0x80 ≤ byte.toNat ∧ byte.toNat < 0xC0 := by
  simp only [isTail, Bool.and_eq_true, decide_eq_true_iff, UInt8.le_iff_toNat_le, UInt8.reduceToNat]
  omega

theorem allowsSecond_iff (first second : UInt8) :
    allowsSecond first second = true ↔
      (0x80 ≤ second.toNat ∧ second.toNat < 0xC0) ∧
      (first.toNat = 0xE0 → 0xA0 ≤ second.toNat) ∧ (first.toNat = 0xED → second.toNat < 0xA0) ∧
      (first.toNat = 0xF0 → 0x90 ≤ second.toNat) ∧ (first.toNat = 0xF4 → second.toNat < 0x90) := by
  simp only [allowsSecond, isTail, beq_iff_eq, ← UInt8.toNat_inj, UInt8.le_iff_toNat_le,
    UInt8.reduceToNat]
  grind

theorem exists_second (first : UInt8) : ∃ second, allowsSecond first second = true := by
  by_cases late : first.toNat = 0xE0 ∨ first.toNat = 0xF0
  · by_cases three : first.toNat = 0xE0
    · exact ⟨0xA0, (allowsSecond_iff _ _).2 (by simp [three])⟩
    · exact ⟨0x90, (allowsSecond_iff _ _).2 (by simp [late.resolve_left three])⟩
  · rw [not_or] at late
    exact ⟨0x80, (allowsSecond_iff _ _).2 (by simp [late])⟩

/-! ## The bytes of a character -/

/-- How a character is spelled, by the kind of its lead byte. -/
inductive Spelled : Char → Bytes → Prop
  | ascii {a : UInt8} (first : lead a = .ascii) : Spelled (Char.ofNat a.toNat) [a]
  | two {a b : UInt8} (first : lead a = .two) (second : isTail b = true) :
    Spelled (Char.ofNat (64 * (a.toNat % 32) + tailBits b)) [a, b]
  | three {a b c : UInt8} (first : lead a = .three) (second : allowsSecond a b = true)
    (third : isTail c = true) :
    Spelled (Char.ofNat (4096 * (a.toNat % 16) + 64 * tailBits b + tailBits c)) [a, b, c]
  | four {a b c d : UInt8} (first : lead a = .four) (second : allowsSecond a b = true)
    (third : isTail c = true) (fourth : isTail d = true) :
    Spelled (Char.ofNat (262144 * (a.toNat % 8) + 4096 * tailBits b + 64 * tailBits c + tailBits d))
      [a, b, c, d]

theorem val_ofNat {number : Nat} (valid : number.isValidChar) :
    (Char.ofNat number).val.toNat = number := by
  rw [Char.ofNat, dif_pos valid]
  rfl

theorem ofNat_eq_of_toNat {number : Nat} {byte : UInt8} (same : number = byte.toNat) :
    UInt8.ofNat number = byte := by
  rw [same, UInt8.ofNat_toNat]

theorem Spelled.encodeChar {char : Char} {bytes : Bytes} (spelled : Spelled char bytes) :
    utf8EncodeChar char = bytes := by
  cases spelled with
  | @ascii a first =>
    rw [lead_eq_ascii_iff] at first
    have valid : a.toNat.isValidChar := .inl (by omega)
    rw [utf8EncodeChar, val_ofNat valid, if_pos (by omega), UInt8.ofNat_toNat]
  | @two a b first second =>
    rw [lead_eq_two_iff] at first
    rw [isTail_iff] at second
    unfold tailBits
    have valid : (64 * (a.toNat % 32) + b.toNat % 64).isValidChar := .inl (by omega)
    rw [utf8EncodeChar, val_ofNat valid, if_neg (by omega), if_pos (by omega)]
    congr <;> exact ofNat_eq_of_toNat (by omega)
  | @three a b c first second third =>
    rw [lead_eq_three_iff] at first
    rw [allowsSecond_iff] at second
    rw [isTail_iff] at third
    unfold tailBits
    have valid : (4096 * (a.toNat % 16) + 64 * (b.toNat % 64) + c.toNat % 64).isValidChar := by
      unfold Nat.isValidChar
      omega
    rw [utf8EncodeChar, val_ofNat valid, if_neg (by omega), if_neg (by omega), if_pos (by omega)]
    congr <;> exact ofNat_eq_of_toNat (by omega)
  | @four a b c d first second third fourth =>
    rw [lead_eq_four_iff] at first
    rw [allowsSecond_iff] at second
    rw [isTail_iff] at third fourth
    unfold tailBits
    have valid : (262144 * (a.toNat % 8) + 4096 * (b.toNat % 64) + 64 * (c.toNat % 64) +
        d.toNat % 64).isValidChar := by
      unfold Nat.isValidChar
      omega
    rw [utf8EncodeChar, val_ofNat valid, if_neg (by omega), if_neg (by omega), if_neg (by omega)]
    congr <;> exact ofNat_eq_of_toNat (by omega)

theorem Spelled.of_number {char : Char} {number : Nat} {bytes : Bytes}
    (spelled : Spelled (Char.ofNat number) bytes) (same : number = char.val.toNat) :
    Spelled char bytes := by
  have whole : Char.ofNat char.val.toNat = char := char.ofNat_toNat
  rwa [same, whole] at spelled

theorem spelled_encodeChar (char : Char) : Spelled char (utf8EncodeChar char) := by
  have valid : char.val.toNat.isValidChar := char.valid
  unfold Nat.isValidChar at valid
  have byte {number : Nat} (small : number < 256) : (UInt8.ofNat number).toNat = number :=
    UInt8.toNat_ofNat_of_lt' small
  unfold utf8EncodeChar
  dsimp only
  split
  · refine .of_number (.ascii ?_) ?_
    · rw [lead_eq_ascii_iff, byte (by omega)]
      omega
    · exact byte (by omega)
  · split
    · refine .of_number (.two ?_ ?_) ?_
      · rw [lead_eq_two_iff, byte (by omega)]
        omega
      · rw [isTail_iff, byte (by omega)]
        omega
      · simp (disch := omega) only [tailBits, byte]
        omega
    · split
      · refine .of_number (.three ?_ ?_ ?_) ?_
        · rw [lead_eq_three_iff, byte (by omega)]
          omega
        · rw [allowsSecond_iff, byte (by omega), byte (by omega)]
          omega
        · rw [isTail_iff, byte (by omega)]
          omega
        · simp (disch := omega) only [tailBits, byte]
          omega
      · refine .of_number (.four ?_ ?_ ?_ ?_) ?_
        · rw [lead_eq_four_iff, byte (by omega)]
          omega
        · rw [allowsSecond_iff, byte (by omega), byte (by omega)]
          omega
        · rw [isTail_iff, byte (by omega)]
          omega
        · rw [isTail_iff, byte (by omega)]
          omega
        · simp (disch := omega) only [tailBits, byte]
          omega

/-! ## Reading characters -/

theorem decodeFrom_encodeChar (done : Nat) (char : Char) (rest : Bytes) :
    decodeFrom done (utf8EncodeChar char ++ rest) =
      (decodeFrom (done + (utf8EncodeChar char).length) rest).map (char :: ·) := by
  generalize utf8EncodeChar char = bytes, spelled_encodeChar char = spelled
  cases spelled with
  | ascii first =>
    rw [List.cons_append, decodeFrom.eq_def]
    simp [first]
  | two first second =>
    rw [List.cons_append, decodeFrom.eq_def]
    simp [first, second]
  | three first second third =>
    rw [List.cons_append, decodeFrom.eq_def]
    simp [first, second, third]
  | four first second third fourth =>
    rw [List.cons_append, decodeFrom.eq_def]
    simp [first, second, third, fourth]

theorem decodeFrom_flatMap (done : Nat) (chars : List Char) (rest : Bytes) :
    decodeFrom done (chars.flatMap utf8EncodeChar ++ rest) =
      (decodeFrom (done + (chars.flatMap utf8EncodeChar).length) rest).map (chars ++ ·) := by
  induction chars generalizing done with
  | nil => cases found : decodeFrom done rest <;> simp [found, Except.map]
  | cons char others ih =>
    rw [List.flatMap_cons, List.append_assoc, decodeFrom_encodeChar, ih, List.length_append,
      ← Nat.add_assoc]
    cases decodeFrom (done + _ + _) rest <;> rfl

theorem eq_of_isPrefix {char other : Char}
    (front : utf8EncodeChar char <+: utf8EncodeChar other) : char = other := by
  obtain ⟨more, same⟩ := front
  have read := decodeFrom_encodeChar 0 other []
  rw [List.append_nil, ← same, decodeFrom_encodeChar] at read
  cases found : decodeFrom (0 + (utf8EncodeChar char).length) more with
  | error fault =>
    rw [found] at read
    cases read
  | ok chars =>
    rw [found] at read
    cases read
    rfl

/-! ## Bytes that begin with no character -/

def Stuck (bytes : Bytes) : Prop :=
  ∀ char, ¬ utf8EncodeChar char <+: bytes

/-- Any bytes are those of some characters and a rest that begins with none. -/
theorem exists_stuck (bytes : Bytes) :
    ∃ (chars : List Char) (rest : Bytes),
      bytes = chars.flatMap utf8EncodeChar ++ rest ∧ Stuck rest := by
  induction length : bytes.length using Nat.strongRecOn generalizing bytes with
  | _ _ ih =>
    by_cases begun : ∃ char, utf8EncodeChar char <+: bytes
    · obtain ⟨char, behind, rfl⟩ := begun
      have shorter : behind.length < (utf8EncodeChar char ++ behind).length := by
        have some_byte := List.length_pos_of_ne_nil (String.utf8EncodeChar_ne_nil (c := char))
        rw [List.length_append]
        omega
      obtain ⟨chars, rest, rfl, stuck⟩ := ih _ (length ▸ shorter) behind rfl
      exact ⟨char :: chars, rest, by rw [List.flatMap_cons, List.append_assoc], stuck⟩
    · exact ⟨[], bytes, rfl, not_exists.1 begun⟩

theorem Stuck.isPrefix {rest : Bytes} (stuck : Stuck rest) {chars others : List Char}
    (front : others.flatMap utf8EncodeChar <+: chars.flatMap utf8EncodeChar ++ rest) :
    others.flatMap utf8EncodeChar <+: chars.flatMap utf8EncodeChar := by
  induction others generalizing chars with
  | nil => exact List.nil_prefix
  | cons other others ih =>
    rw [List.flatMap_cons] at front ⊢
    cases chars with
    | nil => exact absurd ((List.prefix_append _ _).trans front) (stuck other)
    | cons char chars =>
      rw [List.flatMap_cons, List.append_assoc] at front
      obtain rfl : other = char := by
        have one := (List.prefix_append _ _).trans front
        obtain within | beyond := List.prefix_or_prefix_of_prefix one (List.prefix_append _ _)
        · exact eq_of_isPrefix within
        · exact (eq_of_isPrefix beyond).symm
      rw [List.prefix_append_right_inj] at front
      rw [List.flatMap_cons, List.prefix_append_right_inj]
      exact ih front

/-- What the reader makes of bytes that begin with no character. -/
structure Broken (bytes : Bytes) (badLength : Option Nat) : Prop where
  refused : ∀ done, decodeFrom done bytes = .error ⟨done, badLength⟩
  cut : badLength = none → ∃ char, bytes <+: utf8EncodeChar char
  /-- Otherwise nothing behind them makes up for it. -/
  lasting : badLength ≠ none → ∀ done more, decodeFrom done (bytes ++ more) = .error ⟨done, badLength⟩

theorem Broken.of_cut {bytes more : Bytes} {char : Char} (spelled : Spelled char (bytes ++ more))
    (refused : ∀ done, decodeFrom done bytes = .error ⟨done, none⟩) : Broken bytes none :=
  ⟨refused, fun _ => ⟨char, more, spelled.encodeChar.symm⟩, fun other => absurd rfl other⟩

theorem Broken.of_lasting {bytes : Bytes} {length : Nat}
    (refused : ∀ done more, decodeFrom done (bytes ++ more) = .error ⟨done, some length⟩) :
    Broken bytes (some length) :=
  ⟨fun done => by simpa using refused done [], nofun, fun _ => refused⟩

theorem isTail_least : isTail 0x80 = true := rfl

section
variable {a b c : UInt8} {rest : Bytes}

theorem broken_first (first : lead a = .none) : Broken (a :: rest) (some 1) := by
  refine .of_lasting fun done more => ?_
  rw [List.cons_append, decodeFrom.eq_def]
  simp [first]

theorem broken_second_of_two (first : lead a = .two) (second : isTail b = false) :
    Broken (a :: b :: rest) (some 1) := by
  refine .of_lasting fun done more => ?_
  rw [List.cons_append, decodeFrom.eq_def]
  simp [first, second]

theorem broken_second (first : lead a = .three ∨ lead a = .four)
    (second : allowsSecond a b = false) : Broken (a :: b :: rest) (some 1) := by
  refine .of_lasting fun done more => ?_
  rw [List.cons_append, decodeFrom.eq_def]
  obtain three | four := first
  · simp [three, second]
  · simp [four, second]

theorem broken_third (first : lead a = .three ∨ lead a = .four)
    (second : allowsSecond a b = true) (third : isTail c = false) :
    Broken (a :: b :: c :: rest) (some 2) := by
  refine .of_lasting fun done more => ?_
  rw [List.cons_append, decodeFrom.eq_def]
  obtain three | four := first
  · simp [three, second, third]
  · simp [four, second, third]

theorem broken_fourth {d : UInt8} (first : lead a = .four) (second : allowsSecond a b = true)
    (third : isTail c = true) (fourth : isTail d = false) :
    Broken (a :: b :: c :: d :: rest) (some 3) := by
  refine .of_lasting fun done more => ?_
  rw [List.cons_append, decodeFrom.eq_def]
  simp [first, second, third, fourth]

/-- A character stands at the beginning, or the reader refuses the bytes where they begin. -/
def Settled (bytes : Bytes) : Prop :=
  (∃ char, utf8EncodeChar char <+: bytes) ∨ ∃ badLength, Broken bytes badLength

theorem settled_of_spelled {char : Char} {front : Bytes} (spelled : Spelled char front)
    (more : Bytes) : Settled (front ++ more) :=
  .inl ⟨char, spelled.encodeChar ▸ List.prefix_append _ _⟩

theorem settled_of_broken {bytes : Bytes} {badLength : Option Nat}
    (broken : Broken bytes badLength) : Settled bytes :=
  .inr ⟨badLength, broken⟩

theorem settled_of_two (first : lead a = .two) : ∀ rest, Settled (a :: rest)
  | [] => settled_of_broken <| .of_cut (.two first isTail_least) fun done => by
    simp [decodeFrom, first]
  | b :: rest => by
    cases second : isTail b with
    | false => exact settled_of_broken (broken_second_of_two first second)
    | true => exact settled_of_spelled (.two first second) rest

theorem settled_of_three (first : lead a = .three) : ∀ rest, Settled (a :: rest)
  | [] => by
    obtain ⟨b, second⟩ := exists_second a
    exact settled_of_broken <| .of_cut (.three first second isTail_least) fun done => by
      simp [decodeFrom, first]
  | b :: rest => by
    cases second : allowsSecond a b with
    | false => exact settled_of_broken (broken_second (.inl first) second)
    | true =>
      match rest with
      | [] =>
        exact settled_of_broken <| .of_cut (.three first second isTail_least) fun done => by
          simp [decodeFrom, first, second]
      | c :: rest =>
        cases third : isTail c with
        | false => exact settled_of_broken (broken_third (.inl first) second third)
        | true => exact settled_of_spelled (.three first second third) rest

theorem settled_of_four (first : lead a = .four) : ∀ rest, Settled (a :: rest)
  | [] => by
    obtain ⟨b, second⟩ := exists_second a
    exact settled_of_broken <| .of_cut (.four first second isTail_least isTail_least) fun done => by
      simp [decodeFrom, first]
  | b :: rest => by
    cases second : allowsSecond a b with
    | false => exact settled_of_broken (broken_second (.inr first) second)
    | true =>
      match rest with
      | [] =>
        exact settled_of_broken <| .of_cut (.four first second isTail_least isTail_least)
          fun done => by simp [decodeFrom, first, second]
      | c :: rest =>
        cases third : isTail c with
        | false => exact settled_of_broken (broken_third (.inr first) second third)
        | true =>
          match rest with
          | [] =>
            exact settled_of_broken <| .of_cut (.four first second third isTail_least)
              fun done => by simp [decodeFrom, first, second, third]
          | d :: rest =>
            cases fourth : isTail d with
            | false => exact settled_of_broken (broken_fourth first second third fourth)
            | true => exact settled_of_spelled (.four first second third fourth) rest

end

theorem Stuck.broken {bytes : Bytes} (stuck : Stuck bytes) (nonempty : bytes ≠ []) :
    ∃ badLength, Broken bytes badLength := by
  obtain ⟨first, rest, rfl⟩ := List.exists_cons_of_ne_nil nonempty
  have settled : Settled (first :: rest) := by
    cases kind : lead first with
    | none => exact settled_of_broken (broken_first kind)
    | ascii => exact settled_of_spelled (.ascii kind) rest
    | two => exact settled_of_two kind rest
    | three => exact settled_of_three kind rest
    | four => exact settled_of_four kind rest
  exact settled.resolve_left (not_exists.2 stuck)

theorem Broken.cut_iff {bytes : Bytes} {badLength : Option Nat} (broken : Broken bytes badLength) :
    badLength = none ↔ ∃ char, bytes <+: utf8EncodeChar char := by
  refine ⟨broken.cut, ?_⟩
  rintro ⟨char, more, whole⟩
  by_contra bad
  have read := decodeFrom_encodeChar 0 char []
  rw [List.append_nil, ← whole, broken.lasting bad, decodeFrom] at read
  cases read

theorem decode_flatMap (chars : List Char) (rest : Bytes) :
    decode (chars.flatMap utf8EncodeChar ++ rest) =
      (decodeFrom (chars.flatMap utf8EncodeChar).length rest).map fun others =>
        String.ofList (chars ++ others) := by
  rw [decode, decodeFrom_flatMap, Nat.zero_add]
  cases decodeFrom (chars.flatMap utf8EncodeChar).length rest <;> rfl

theorem decode_encode (text : String) : decode (encode text) = .ok text := by
  have read := decode_flatMap text.toList []
  rwa [List.append_nil, decodeFrom, Except.map, List.append_nil, String.ofList_toList] at read

/-- The fault lies behind some characters, where a rest that begins with none begins. -/
def Faulty (bytes : Bytes) (fault : Fault) : Prop :=
  ∃ (chars : List Char) (rest : Bytes),
    bytes = chars.flatMap utf8EncodeChar ++ rest ∧ rest ≠ [] ∧ Stuck rest ∧
      fault.validUpTo = (chars.flatMap utf8EncodeChar).length ∧ Broken rest fault.badLength

theorem decode_cases (bytes : Bytes) :
    (∃ text, bytes = encode text ∧ decode bytes = .ok text) ∨
      ∃ fault, Faulty bytes fault ∧ decode bytes = .error fault := by
  obtain ⟨chars, rest, rfl, stuck⟩ := exists_stuck bytes
  by_cases whole : rest = []
  · subst whole
    rw [List.append_nil, ← encode_ofList]
    exact .inl ⟨_, rfl, decode_encode _⟩
  · obtain ⟨badLength, broken⟩ := stuck.broken whole
    refine .inr ⟨⟨(chars.flatMap utf8EncodeChar).length, badLength⟩,
      ⟨chars, rest, rfl, whole, stuck, rfl, broken⟩, ?_⟩
    rw [decode_flatMap, broken.refused]
    rfl

theorem decode_eq_ok_iff {bytes : Bytes} {text : String} :
    decode bytes = .ok text ↔ encode text = bytes := by
  constructor
  · intro read
    obtain ⟨found, same, now⟩ | ⟨fault, -, now⟩ := decode_cases bytes
    · obtain rfl : found = text := Except.ok.inj (now.symm.trans read)
      exact same.symm
    · cases now.symm.trans read
  · rintro rfl
    exact decode_encode text

theorem faulty_of_decode {bytes : Bytes} {fault : Fault} (refused : decode bytes = .error fault) :
    Faulty bytes fault := by
  obtain ⟨text, -, now⟩ | ⟨found, faulty, now⟩ := decode_cases bytes
  · cases now.symm.trans refused
  · obtain rfl : found = fault := Except.error.inj (now.symm.trans refused)
    exact faulty

end LightingControl.Utf8
