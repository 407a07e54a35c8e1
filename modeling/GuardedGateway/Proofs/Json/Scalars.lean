import GuardedGateway.Json.Printer
import GuardedGateway.Json.Reader
import GuardedGateway.Proofs.Text.Encoding
import Mathlib.Algebra.Group.Int.Defs
import Mathlib.Algebra.Group.Nat.Defs
import Mathlib.Tactic.SplitIfs

/-!
# Strings and whole numbers, read back from their texts

A string is printed character by character, and read byte by byte.  `Stands` connects the two: these
bytes between the quotes stand for those bytes of the text, wherever in the string they are.  It
holds of each printed character (`stands_escape`), so it holds of all of them, and a printed string
is read back as it was, whatever its characters are (`string_quoted`).

A whole number is printed as its decimal digits.  They are absorbed one after the other, so as long
as the number is within 64 bits nothing is left over (`absorb_digits`), and it is read back
(`signedNumber_int`) when what follows does not go on with it.
-/

namespace GuardedGateway.Json

/-! ## Strings -/

/-- The bytes `written` in a string stand for the bytes `meant` of the text. -/
def Stands (written meant : Bytes) : Prop :=
  ∀ fuel acc s, (written ++ s).length ≤ fuel → ∃ fuel', s.length ≤ fuel' ∧
    stringBytes fuel acc (written ++ s) = stringBytes fuel' (meant.reverse ++ acc) s

namespace Stands

theorem nil : Stands [] [] := fun fuel _ _ h => ⟨fuel, h, rfl⟩

theorem append {written₁ written₂ meant₁ meant₂ : Bytes} (h₁ : Stands written₁ meant₁)
    (h₂ : Stands written₂ meant₂) : Stands (written₁ ++ written₂) (meant₁ ++ meant₂) := by
  intro fuel acc s h
  rw [List.append_assoc] at h ⊢
  obtain ⟨fuel₁, hfuel₁, heq₁⟩ := h₁ fuel acc _ h
  obtain ⟨fuel₂, hfuel₂, heq₂⟩ := h₂ fuel₁ (meant₁.reverse ++ acc) s hfuel₁
  refine ⟨fuel₂, hfuel₂, ?_⟩
  rw [heq₁, heq₂, List.reverse_append, List.append_assoc]

/-- A byte that is no quote, no backslash and no control character stands for itself. -/
theorem byte {b : UInt8} (hquote : b ≠ 34) (hbackslash : b ≠ 92) (hcontrol : ¬ b < 32) :
    Stands [b] [b] := by
  intro fuel acc s h
  cases fuel with
  | zero => cases h
  | succ fuel =>
    refine ⟨fuel, Nat.le_of_succ_le_succ h, ?_⟩
    simp only [List.singleton_append, stringBytes, if_neg hquote, if_neg hbackslash,
      if_neg hcontrol, List.reverse_singleton]

theorem bytes {bs : Bytes} (h : ∀ b ∈ bs, b ≠ 34 ∧ b ≠ 92 ∧ ¬ b < 32) : Stands bs bs := by
  induction bs with
  | nil => exact nil
  | cons b bs ih =>
    obtain ⟨hquote, hbackslash, hcontrol⟩ := h b List.mem_cons_self
    exact (byte hquote hbackslash hcontrol).append (ih fun c hc => h c (List.mem_cons_of_mem b hc))

/-- A backslash and what is read as an escape stand for what the escape means. -/
theorem escape {written meant : Bytes} (h : ∀ s, escaped (written ++ s) = .ok (meant, s)) :
    Stands (92 :: written) meant := by
  intro fuel acc s hfuel
  cases fuel with
  | zero => cases hfuel
  | succ fuel =>
    have hlength : (written ++ s).length ≤ fuel := Nat.le_of_succ_le_succ hfuel
    rw [List.length_append] at hlength
    refine ⟨fuel, Nat.le_trans (Nat.le_add_left _ _) hlength, ?_⟩
    show stringBytes (fuel + 1) acc (92 :: (written ++ s)) = _
    rw [stringBytes, if_neg (by decide), if_pos rfl, h s]
    rfl

end Stands

/-- A letter that is a short escape stands, behind a backslash, for one byte. -/
theorem stands_shortEscape {letter b : UInt8} (hletter : letter ≠ 117)
    (h : shortEscape? letter = some b) : Stands [92, letter] [b] := by
  refine .escape fun s => ?_
  rw [List.singleton_append, escaped.eq_def]
  split
  · rename_i heq
    cases heq
  · rename_i heq
    exact absurd (List.cons.inj heq).1 hletter
  · rename_i heq
    obtain ⟨rfl, rfl⟩ := List.cons.inj heq
    rw [h]

/-- Four hexadecimal digits of a control character are read back as its number. -/
theorem codeUnit_hexPadded {n : Nat} (h : n < 32) (s : Bytes) :
    codeUnit ((Text.hexPadded 4 n).flatMap String.utf8EncodeChar ++ s) = .ok (n, s) := by
  have hdigits : ∀ m : Fin 32,
      ((Text.hexPadded 4 m).flatMap String.utf8EncodeChar).map hexValue? =
        [some 0, some 0, some (m / 16 : Nat), some (m % 16 : Nat)] := by decide
  have hvalues := hdigits ⟨n, h⟩
  obtain ⟨a, _, hbytes, ha, hvalues⟩ := List.map_eq_cons_iff.mp hvalues
  obtain ⟨b, _, rfl, hb, hvalues⟩ := List.map_eq_cons_iff.mp hvalues
  obtain ⟨c, _, rfl, hc, hvalues⟩ := List.map_eq_cons_iff.mp hvalues
  obtain ⟨d, _, rfl, hd, hvalues⟩ := List.map_eq_cons_iff.mp hvalues
  obtain rfl := List.map_eq_nil_iff.mp hvalues
  rw [show Text.hexPadded 4 n = Text.hexPadded 4 (⟨n, h⟩ : Fin 32) from rfl, hbytes]
  show codeUnit (a :: b :: c :: d :: s) = _
  simp only [codeUnit, ha, hb, hc, hd]
  congr 2
  omega

theorem stands_unicodeEscape {c : Char} (h : c.toNat < 32) :
    Stands (92 :: 117 :: (Text.hexPadded 4 c.toNat).flatMap String.utf8EncodeChar)
      (String.utf8EncodeChar c) := by
  refine .escape fun s => ?_
  show escaped (117 :: ((Text.hexPadded 4 c.toNat).flatMap String.utf8EncodeChar ++ s)) = _
  have hlow : ¬ (0xDC00 ≤ c.toNat ∧ c.toNat ≤ 0xDFFF) := by omega
  have hhigh : ¬ (0xD800 ≤ c.toNat ∧ c.toNat ≤ 0xDBFF) := by omega
  rw [escaped, codeUnit_hexPadded h s]
  simp only [bind, Except.bind, if_neg hlow, if_neg hhigh, codePointBytes, Char.ofNat_toNat]
  rfl

/-- **Every character stands for itself in the way in which it is printed.** -/
theorem stands_escape (c : Char) :
    Stands ((escape c).flatMap String.utf8EncodeChar) (String.utf8EncodeChar c) := by
  unfold escape
  split_ifs with hquote hbackslash hbackspace hfeed hnewline hreturn htab hcontrol
  · subst hquote
    exact stands_shortEscape (by decide) (by decide)
  · subst hbackslash
    exact stands_shortEscape (by decide) (by decide)
  · subst hbackspace
    exact stands_shortEscape (by decide) (by decide)
  · subst hfeed
    exact stands_shortEscape (by decide) (by decide)
  · subst hnewline
    exact stands_shortEscape (by decide) (by decide)
  · subst hreturn
    exact stands_shortEscape (by decide) (by decide)
  · subst htab
    exact stands_shortEscape (by decide) (by decide)
  · exact stands_unicodeEscape hcontrol
  · rw [List.flatMap_singleton]
    refine .bytes fun b hb => ?_
    rcases Nat.lt_or_ge c.toNat 128 with hlow | hhigh
    · rw [Text.utf8EncodeChar_of_lt hlow, List.mem_singleton] at hb
      subst hb
      have hbyte {n : Nat} (hn : n < 128) : (UInt8.ofNat n).toNat = n :=
        UInt8.toNat_ofNat_of_lt' (Nat.lt_trans hn (by decide))
      have hne (d : Char) (hd : d.toNat < 128) (hcd : c ≠ d) :
          UInt8.ofNat c.toNat ≠ UInt8.ofNat d.toNat := by
        intro heq
        have hnat := congrArg UInt8.toNat heq
        rw [hbyte hlow, hbyte hd] at hnat
        exact hcd (Char.toNat_inj.mp hnat)
      refine ⟨hne '"' (by decide) hquote, hne '\\' (by decide) hbackslash, ?_⟩
      rw [UInt8.lt_iff_toNat_lt, hbyte hlow]
      exact hcontrol
    · have hbyte := UInt8.le_iff_toNat_le.mp (Text.le_of_mem_utf8EncodeChar hhigh hb)
      have hmark (n : UInt8) (hn : n.toNat < 128) : b ≠ n := by
        rintro rfl
        exact absurd hbyte (Nat.not_le.mpr hn)
      refine ⟨hmark 34 (by decide), hmark 92 (by decide), ?_⟩
      rw [UInt8.lt_iff_toNat_lt]
      exact Nat.not_lt.mpr (Nat.le_trans (by decide) hbyte)

/-- What stands between the quotes of a printed string. -/
def quotedBytes (text : String) : Bytes :=
  (text.toList.flatMap escape).flatMap String.utf8EncodeChar

theorem bytes_quoted (text : String) :
    Text.bytes (quoted text) = 34 :: (quotedBytes text ++ [34]) := by
  have hquote : Text.bytes "\"" = [34] := by decide
  rw [quoted, Text.bytes_append, Text.bytes_append, hquote, Text.bytes_ofList]
  rfl

theorem stands_quotedBytes (text : String) : Stands (quotedBytes text) (Text.bytes text) := by
  rw [Text.bytes_eq, quotedBytes]
  induction text.toList with
  | nil => exact .nil
  | cons c cs ih =>
    rw [List.flatMap_cons, List.flatMap_append, List.flatMap_cons]
    exact (stands_escape c).append ih

/-- **A printed string is read back**, whatever its characters are. -/
theorem string_quoted (text : String) (rest : Bytes) :
    string (quotedBytes text ++ 34 :: rest) = .ok (text, rest) := by
  obtain ⟨fuel, hfuel, heq⟩ := stands_quotedBytes text
    ((quotedBytes text ++ 34 :: rest).length + 1) [] (34 :: rest) (Nat.le_succ _)
  have hquote : stringBytes fuel ((Text.bytes text).reverse ++ []) (34 :: rest) =
      .ok ((Text.bytes text).reverse, 34 :: rest) := by
    cases fuel with
    | zero => cases hfuel
    | succ fuel => rw [stringBytes, if_pos rfl, List.append_nil]
  rw [string, heq, hquote]
  simp only [bind, Except.bind, List.reverse_reverse, Text.ofBytes?_bytes]
  rfl

/-! ## Whole numbers -/

/-- The decimal digits of a number. -/
def digits (n : Nat) : Bytes :=
  Text.bytes (Nat.repr n)

/-- The byte of a digit. -/
def digitByte (d : Nat) : UInt8 :=
  UInt8.ofNat (48 + d)

theorem digitByte_spec {d : Nat} (h : d < 10) :
    String.utf8EncodeChar (Nat.digitChar d) = [digitByte d] ∧ isDigit (digitByte d) = true ∧
      digitValue (digitByte d) = d ∧ (digitByte d = 48 → d = 0) ∧ digitByte d ≠ 45 := by
  have hall : ∀ d : Fin 10,
      String.utf8EncodeChar (Nat.digitChar d) = [digitByte d] ∧ isDigit (digitByte d) = true ∧
        digitValue (digitByte d) = d ∧ (digitByte d = 48 → (d : Nat) = 0) ∧
          digitByte d ≠ 45 := by decide
  exact hall ⟨d, h⟩

theorem digits_of_lt {n : Nat} (h : n < 10) : digits n = [digitByte n] := by
  rw [digits, Nat.repr, Text.bytes_ofList, Nat.toDigits_of_lt_base h, List.flatMap_singleton,
    (digitByte_spec h).1]

theorem digits_of_le {n : Nat} (h : 10 ≤ n) :
    digits n = digits (n / 10) ++ [digitByte (n % 10)] := by
  have hlast : n % 10 < 10 := Nat.mod_lt n (by decide)
  rw [digits, digits, Nat.repr, Nat.repr, Text.bytes_ofList, Text.bytes_ofList,
    Nat.toDigits_of_base_le (by decide) h, List.flatMap_append, List.flatMap_singleton,
    (digitByte_spec hlast).1]

/-- Induction over the digits of a number, from the first to the last. -/
theorem digits_induct {motive : Nat → Prop} (one : ∀ d, d < 10 → motive d)
    (more : ∀ n, 10 ≤ n → motive (n / 10) → motive n) (n : Nat) : motive n := by
  induction n using Nat.strongRecOn with
  | ind n ih =>
    rcases Nat.lt_or_ge n 10 with hlt | hle
    · exact one n hlt
    · exact more n hle (ih (n / 10) (by omega))

theorem isDigit_of_mem_digits {n : Nat} : ∀ b ∈ digits n, isDigit b = true := by
  induction n using digits_induct with
  | one d h =>
    rw [digits_of_lt h]
    exact List.forall_mem_singleton.mpr (digitByte_spec h).2.1
  | more n h ih =>
    rw [digits_of_le h]
    refine List.forall_mem_append.mpr ⟨ih, List.forall_mem_singleton.mpr ?_⟩
    exact (digitByte_spec (Nat.mod_lt n (by decide))).2.1

/-- The first digit is no sign, and it is zero only when it is the only one. -/
theorem exists_first_digit (n : Nat) :
    ∃ b rest, digits n = b :: rest ∧ b ≠ 45 ∧ (b = 48 → n = 0 ∧ rest = []) := by
  induction n using digits_induct with
  | one d h =>
    obtain ⟨-, -, -, hzero, hsign⟩ := digitByte_spec h
    exact ⟨_, [], digits_of_lt h, hsign, fun heq => ⟨hzero heq, rfl⟩⟩
  | more n h ih =>
    obtain ⟨b, rest, hdigits, hsign, hzero⟩ := ih
    refine ⟨b, rest ++ [digitByte (n % 10)], ?_, hsign, fun heq => ?_⟩
    · rw [digits_of_le h, hdigits, List.cons_append]
    · have hfirst := (hzero heq).1
      omega

theorem absorb_append {m k : Nat} {ds : Bytes} (h : absorb m ds = (k, 0)) (more : Bytes) :
    absorb m (ds ++ more) = absorb k more := by
  induction ds generalizing m with
  | nil =>
    rw [absorb] at h
    cases h
    rfl
  | cons d ds ih =>
    rw [absorb] at h
    rw [List.cons_append, absorb]
    split at h
    · cases h
    · rename_i hfits
      rw [if_neg hfits]
      exact ih h

/-- The digits of a number of 64 bits are absorbed, and none is left over. -/
theorem absorb_digits {n : Nat} (h : n < 2 ^ 64) : absorb 0 (digits n) = (n, 0) := by
  have hfits : ¬ UInt64.size ≤ n := Nat.not_le.mpr h
  induction n using digits_induct with
  | one d hd =>
    rw [digits_of_lt hd, absorb, (digitByte_spec hd).2.2.1, Nat.zero_mul, Nat.zero_add,
      if_neg hfits, absorb]
  | more n hn ih =>
    have hlast : n % 10 < 10 := Nat.mod_lt n (by decide)
    have hsplit : n / 10 * 10 + n % 10 = n := Nat.div_add_mod' n 10
    rw [digits_of_le hn, absorb_append (ih (by omega) (by omega)), absorb,
      (digitByte_spec hlast).2.2.1, hsplit, if_neg hfits, absorb]

/-- What follows a number without going on with it. -/
def EndsNumber (rest : Bytes) : Prop :=
  ∀ b ∈ rest.head?, isDigit b = false ∧ b ≠ 46 ∧ b ≠ 101 ∧ b ≠ 69

theorem takeWhile_digits {n : Nat} {rest : Bytes} (hrest : EndsNumber rest) :
    (digits n ++ rest).takeWhile isDigit = digits n ∧
      (digits n ++ rest).dropWhile isDigit = rest := by
  have hstop : rest.takeWhile isDigit = [] ∧ rest.dropWhile isDigit = rest := by
    cases rest with
    | nil => exact ⟨rfl, rfl⟩
    | cons b rest =>
      have hb : ¬ isDigit b = true := Bool.eq_false_iff.mp (hrest b rfl).1
      exact ⟨List.takeWhile_cons_of_neg hb, List.dropWhile_cons_of_neg hb⟩
  rw [List.takeWhile_append_of_pos isDigit_of_mem_digits,
    List.dropWhile_append_of_pos isDigit_of_mem_digits, hstop.1, hstop.2, List.append_nil]
  exact ⟨rfl, rfl⟩

/-- The digits of a number are read back as the number. -/
theorem number_digits (negative : Bool) {n : Nat} {rest : Bytes} (hn : n < 2 ^ 64)
    (hrest : EndsNumber rest) :
    number negative (digits n ++ rest) = .ok (wholeNumber negative n, rest) := by
  obtain ⟨htake, hdrop⟩ := takeWhile_digits (n := n) hrest
  obtain ⟨b, ds, hdigits, -, hzero⟩ := exists_first_digit n
  have hb : isDigit b = true := isDigit_of_mem_digits b (hdigits ▸ List.mem_cons_self)
  -- a zero is read on its own, and here nothing comes behind it that could be a digit
  have hread : (if b = 48 then [b] else (b :: (ds ++ rest)).takeWhile isDigit) = digits n := by
    split
    · rename_i hlead
      rw [hdigits, (hzero hlead).2]
    · rw [hdigits] at htake ⊢
      exact htake
  have hleft : (if b = 48 then ds ++ rest else (b :: (ds ++ rest)).dropWhile isDigit) = rest := by
    split
    · rename_i hlead
      rw [(hzero hlead).2, List.nil_append]
    · rwa [hdigits] at hdrop
  have hlead : (decide (b = 48) && (ds ++ rest).head?.any isDigit) = false := by
    by_cases hlead : b = 48
    · rw [(hzero hlead).2, List.nil_append]
      cases rest with
      | nil => simp
      | cons c rest => simp [(hrest c rfl).1]
    · simp [hlead]
  rw [hdigits]
  simp only [number, List.cons_append, hb, if_true, hread, hleft, hlead, absorb_digits hn,
    Bool.false_eq_true, if_false]
  cases rest with
  | nil => rfl
  | cons c rest =>
    obtain ⟨-, hpoint, hlower, hupper⟩ := hrest c rfl
    split
    · rename_i heq
      exact absurd (List.cons.inj heq).1 hpoint
    · rename_i heq
      exact absurd (List.cons.inj heq).1 hlower
    · rename_i heq
      exact absurd (List.cons.inj heq).1 hupper
    · rfl

theorem bytes_negSucc (m : Nat) :
    Text.bytes (Number.text (.int (.negSucc m))) = 45 :: digits (m + 1) := by
  show Text.bytes ("-" ++ Nat.repr (m + 1)) = _
  rw [Text.bytes_append]
  rfl

/-- **A printed whole number is read back** when what follows does not go on with it. -/
theorem signedNumber_int {n : Int} {rest : Bytes} (hlow : -(2 ^ 63) ≤ n) (hhigh : n < 2 ^ 64)
    (hrest : EndsNumber rest) :
    signedNumber (Text.bytes (Number.text (.int n)) ++ rest) = .ok (.int n, rest) := by
  cases n with
  | ofNat m =>
    obtain ⟨b, ds, hdigits, hsign, -⟩ := exists_first_digit m
    have hm : (m : Int) < 2 ^ 64 := hhigh
    have hread := number_digits false (n := m) (by omega) hrest
    show signedNumber (digits m ++ rest) = _
    rw [hdigits, List.cons_append] at hread ⊢
    rw [signedNumber.eq_def]
    split
    · rename_i heq
      exact absurd (List.cons.inj heq).1 hsign
    · exact hread
  | negSucc m =>
    have hfits : m + 1 ≤ 1 <<< 63 := by
      show m + 1 ≤ 2 ^ 63
      omega
    have hwhole : wholeNumber true (m + 1) = .int (.negSucc m) := by
      rw [wholeNumber, if_pos rfl, if_pos ⟨Nat.succ_pos m, hfits⟩]
      rfl
    rw [bytes_negSucc, List.cons_append, signedNumber, number_digits true (by omega) hrest, hwhole]

/-- A printed whole number begins with a digit or with a minus sign. -/
theorem exists_first_int (n : Int) :
    ∃ b s, Text.bytes (Number.text (.int n)) = b :: s ∧ (b = 45 ∨ isDigit b = true) := by
  cases n with
  | ofNat m =>
    obtain ⟨b, ds, hdigits, -, -⟩ := exists_first_digit m
    exact ⟨b, ds, hdigits, .inr (isDigit_of_mem_digits b (hdigits ▸ List.mem_cons_self))⟩
  | negSucc m => exact ⟨45, digits (m + 1), bytes_negSucc m, .inl rfl⟩

end GuardedGateway.Json
