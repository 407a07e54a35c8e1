import GuardedGateway.Proofs.Json.RoundTrip

/-!
# The text of a value is one line

No control character stands in the text of a plain value (`le_of_mem_printed`).  The printer writes
none between the values, a number has none, and of a string every control character is escaped: what
an escape is made of are visible characters.  So a newline that follows the text of a value ends it,
whatever newlines the strings of the value contain (`newline_not_mem_printed`).
-/

namespace GuardedGateway.Json

/-- No byte is a control character. -/
def NoControl (bs : Bytes) : Prop :=
  ∀ b ∈ bs, 32 ≤ b

instance (bs : Bytes) : Decidable (NoControl bs) :=
  List.decidableBAll _ bs

namespace NoControl

theorem append {bs cs : Bytes} (hbs : NoControl bs) (hcs : NoControl cs) : NoControl (bs ++ cs) :=
  List.forall_mem_append.mpr ⟨hbs, hcs⟩

theorem cons {b : UInt8} {bs : Bytes} (hb : 32 ≤ b) (hbs : NoControl bs) : NoControl (b :: bs) :=
  List.forall_mem_cons.mpr ⟨hb, hbs⟩

theorem flatMap {α : Type} {items : List α} {written : α → Bytes}
    (h : ∀ a ∈ items, NoControl (written a)) : NoControl (items.flatMap written) := by
  intro b hb
  obtain ⟨a, ha, hb⟩ := List.mem_flatMap.mp hb
  exact h a ha b hb

end NoControl

/-- A character that is no control character has no byte that is one. -/
theorem noControl_char {c : Char} (h : 32 ≤ c.toNat) : NoControl (String.utf8EncodeChar c) := by
  intro b hb
  rcases Nat.lt_or_ge c.toNat 128 with hlow | hhigh
  · rw [Text.utf8EncodeChar_of_lt hlow, List.mem_singleton] at hb
    subst hb
    rw [UInt8.le_iff_toNat_le, UInt8.toNat_ofNat_of_lt' (Nat.lt_trans hlow (by decide))]
    exact h
  · exact UInt8.le_trans (by decide) (Text.le_of_mem_utf8EncodeChar hhigh hb)

/-- The digits of an escaped character are none. -/
theorem noControl_hexPadded {n : Nat} (h : n < 32) :
    NoControl ((Text.hexPadded 4 n).flatMap String.utf8EncodeChar) := by
  have hall : ∀ m : Fin 32, NoControl ((Text.hexPadded 4 m).flatMap String.utf8EncodeChar) := by
    decide
  exact hall ⟨n, h⟩

/-- **A character is written without control characters**, whether it is one or not. -/
theorem noControl_escape (c : Char) : NoControl ((escape c).flatMap String.utf8EncodeChar) := by
  unfold escape
  split_ifs with hquote hbackslash hbackspace hfeed hnewline hreturn htab hcontrol
  · decide
  · decide
  · decide
  · decide
  · decide
  · decide
  · decide
  · exact .cons (by decide) (.cons (by decide) (noControl_hexPadded hcontrol))
  · rw [List.flatMap_singleton]
    exact noControl_char (Nat.not_lt.mp hcontrol)

theorem noControl_quotedBytes (s : String) : NoControl (quotedBytes s) := by
  rw [quotedBytes, List.flatMap_assoc]
  exact .flatMap fun c _ => noControl_escape c

theorem noControl_quoted (s : String) : NoControl (Text.bytes (quoted s)) := by
  rw [bytes_quoted]
  exact .cons (by decide) ((noControl_quotedBytes s).append (.cons (by decide) nofun))

theorem noControl_digits (n : Nat) : NoControl (digits n) := by
  intro b hb
  have hdigit := isDigit_of_mem_digits b hb
  simp only [isDigit, Bool.and_eq_true, decide_eq_true_iff] at hdigit
  exact UInt8.le_trans (by decide) hdigit.1

theorem noControl_int (n : Int) : NoControl (Text.bytes (Number.text (.int n))) := by
  cases n with
  | ofNat m => exact noControl_digits m
  | negSucc m =>
    rw [bytes_negSucc]
    exact .cons (by decide) (noControl_digits (m + 1))

theorem noControl_itemsText {items : List Json} (h : ∀ v ∈ items, NoControl (printed v)) :
    NoControl (Text.bytes (itemsText items)) := by
  cases items with
  | nil => exact nofun
  | cons v vs =>
    obtain ⟨hv, hvs⟩ := List.forall_mem_cons.mp h
    rw [bytes_itemsText]
    exact hv.append (.flatMap fun w hw => .cons (by decide) (hvs w hw))

theorem noControl_fieldsText {fields : Fields} (h : ∀ f ∈ fields, NoControl (printed f.2)) :
    NoControl (Text.bytes (fieldsText fields)) := by
  have hfield : ∀ f ∈ fields, NoControl (printedField f) := by
    intro f hf
    have hvalue := NoControl.cons (b := 58) (by decide) (h f hf)
    exact .cons (by decide) ((noControl_quotedBytes f.1).append (.cons (by decide) hvalue))
  cases fields with
  | nil => exact nofun
  | cons f fs =>
    obtain ⟨hf, hfs⟩ := List.forall_mem_cons.mp hfield
    rw [bytes_fieldsText]
    exact hf.append (.flatMap fun g hg => .cons (by decide) (hfs g hg))

/-- **The text of a plain value has no control characters.** -/
theorem noControl_printed {depth : Nat} {v : Json} (h : Plain depth v) : NoControl (printed v) := by
  induction h with
  | null => rw [printed_null]; decide
  | bool _ b =>
    cases b with
    | true => rw [printed_true]; decide
    | false => rw [printed_false]; decide
  | @int _ n _ _ => exact noControl_int n
  | str _ s => exact noControl_quoted s
  | arr _ ih =>
    rw [printed_arr]
    exact .cons (by decide) ((noControl_itemsText ih).append (.cons (by decide) nofun))
  | obj _ _ ih =>
    rw [printed_obj]
    exact .cons (by decide) ((noControl_fieldsText ih).append (.cons (by decide) nofun))

/-- There is no newline in it. -/
theorem newline_not_mem_printed {depth : Nat} {v : Json} (h : Plain depth v) : 10 ∉ printed v :=
  fun hmem => absurd (noControl_printed h 10 hmem) (by decide)

end GuardedGateway.Json
