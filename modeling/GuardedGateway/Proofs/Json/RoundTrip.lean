import GuardedGateway.Proofs.Json.Members
import GuardedGateway.Proofs.Json.Scalars

/-!
# Values, read back from their texts

What is read from the text of a value is the value again (`read_text`), for the values that the
reader can tell apart from all others: they have no fractions, their whole numbers are within 64
bits, the keys of an object are distinct, and the nesting is within the limit.  These are the
`Plain` values.

The induction is over the value.  It cannot be over the text of the value alone, since inside a list
more follows: the reader is left with what follows (`value_text`), provided that it does not go on
with a number.
-/

namespace GuardedGateway.Json

/-- A value without fractions, with whole numbers of 64 bits, with objects whose keys are distinct,
and with at most `depth` levels of lists and objects. -/
inductive Plain : Nat → Json → Prop
  | null (depth : Nat) : Plain depth .null
  | bool (depth : Nat) (b : Bool) : Plain depth (.bool b)
  | int (depth : Nat) {n : Int} : -(2 ^ 63) ≤ n → n < 2 ^ 64 → Plain depth (.num (.int n))
  | str (depth : Nat) (s : String) : Plain depth (.str s)
  | arr {depth : Nat} {items : List Json} : (∀ v ∈ items, Plain depth v) →
    Plain (depth + 1) (.arr items)
  | obj {depth : Nat} {fields : Fields} : fields.keys.Nodup → (∀ f ∈ fields, Plain depth f.2) →
    Plain (depth + 1) (.obj fields)

/-! ## Printed bytes -/

/-- The bytes of the text of a value. -/
def printed (v : Json) : Bytes :=
  Text.bytes v.text

/-- The bytes of a member. -/
def printedField (f : String × Json) : Bytes :=
  34 :: (quotedBytes f.1 ++ 34 :: 58 :: printed f.2)

theorem bytes_fieldText (f : String × Json) : Text.bytes (fieldText f) = printedField f := by
  have hcolon : Text.bytes ":" = [58] := by decide
  obtain ⟨key, v⟩ := f
  rw [fieldText, Text.bytes_append, Text.bytes_append, hcolon, bytes_quoted, printedField, printed]
  simp

theorem bytes_itemsText (v : Json) (vs : List Json) :
    Text.bytes (itemsText (v :: vs)) = printed v ++ vs.flatMap fun w => 44 :: printed w := by
  have hcomma : Text.bytes "," = [44] := by decide
  induction vs generalizing v with
  | nil => rw [itemsText, List.flatMap_nil, List.append_nil, printed]
  | cons w ws ih =>
    rw [itemsText, Text.bytes_append, Text.bytes_append, hcomma, ih, printed]
    simp [printed]

theorem bytes_fieldsText (f : String × Json) (fs : Fields) :
    Text.bytes (fieldsText (f :: fs)) =
      printedField f ++ fs.flatMap fun g => 44 :: printedField g := by
  have hcomma : Text.bytes "," = [44] := by decide
  induction fs generalizing f with
  | nil => rw [fieldsText, List.flatMap_nil, List.append_nil, bytes_fieldText]
  | cons g gs ih =>
    rw [fieldsText, Text.bytes_append, Text.bytes_append, hcomma, ih, bytes_fieldText]
    simp

theorem printed_null : printed .null = [110, 117, 108, 108] := by decide

theorem printed_true : printed (.bool true) = [116, 114, 117, 101] := by decide

theorem printed_false : printed (.bool false) = [102, 97, 108, 115, 101] := by decide

theorem printed_arr (items : List Json) :
    printed (.arr items) = 91 :: (Text.bytes (itemsText items) ++ [93]) := by
  have hopen : Text.bytes "[" = [91] := by decide
  have hclose : Text.bytes "]" = [93] := by decide
  rw [printed, text, Text.bytes_append, Text.bytes_append, hopen, hclose]
  rfl

theorem printed_obj (fields : Fields) :
    printed (.obj fields) = 123 :: (Text.bytes (fieldsText fields) ++ [125]) := by
  have hopen : Text.bytes "\x7b" = [123] := by decide
  have hclose : Text.bytes "\x7d" = [125] := by decide
  rw [printed, text, Text.bytes_append, Text.bytes_append, hopen, hclose]
  rfl

/-! ## Reading punctuation -/

theorem skipSpace_cons {b : UInt8} (h : isSpace b = false) (s : Bytes) :
    skipSpace (b :: s) = b :: s :=
  List.dropWhile_cons_of_neg (Bool.eq_false_iff.mp h)

/-- A comma, or the end of a list or an object, ends a number. -/
theorem endsNumber_cons {b : UInt8} (h : b = 44 ∨ b = 93 ∨ b = 125) (s : Bytes) :
    EndsNumber (b :: s) := by
  rintro _ ⟨⟩
  obtain rfl | rfl | rfl := h <;> decide

theorem endsNumber_nil : EndsNumber [] := nofun

theorem isSpace_eq_false {b : UInt8} (h : b ≠ 32 ∧ b ≠ 10 ∧ b ≠ 9 ∧ b ≠ 13) :
    isSpace b = false := by
  simp [isSpace, h]

/-- What a number begins with is neither a blank nor a closing bracket nor a letter of a word. -/
theorem first_of_number {b : UInt8} (h : b = 45 ∨ isDigit b = true) :
    isSpace b = false ∧ b ≠ 93 ∧ b ≠ 110 ∧ b ≠ 116 ∧ b ≠ 102 := by
  have hne (c : UInt8) (hc : c ≠ 45 ∧ isDigit c = false) : b ≠ c := by
    rintro rfl
    obtain hminus | hdigit := h
    · exact hc.1 hminus
    · exact Bool.false_ne_true (hc.2.symm.trans hdigit)
  exact ⟨isSpace_eq_false ⟨hne 32 (by decide), hne 10 (by decide), hne 9 (by decide),
    hne 13 (by decide)⟩, hne 93 (by decide), hne 110 (by decide), hne 116 (by decide),
    hne 102 (by decide)⟩

/-- The text of a plain value begins with a byte that is no blank and no closing bracket. -/
theorem exists_first_printed {depth : Nat} {v : Json} (h : Plain depth v) :
    ∃ b s, printed v = b :: s ∧ isSpace b = false ∧ b ≠ 93 := by
  cases h with
  | null => exact ⟨110, _, printed_null, by decide, by decide⟩
  | bool _ b =>
    cases b with
    | true => exact ⟨116, _, printed_true, by decide, by decide⟩
    | false => exact ⟨102, _, printed_false, by decide, by decide⟩
  | @int _ n _ _ =>
    obtain ⟨b, s, hbytes, hfirst⟩ := exists_first_int n
    obtain ⟨hspace, hbracket, -⟩ := first_of_number hfirst
    exact ⟨b, s, hbytes, hspace, hbracket⟩
  | str _ s => exact ⟨34, _, bytes_quoted s, by decide, by decide⟩
  | arr _ => exact ⟨91, _, printed_arr _, by decide, by decide⟩
  | obj _ _ => exact ⟨123, _, printed_obj _, by decide, by decide⟩

/-- A reader reads a value back from its text, and leaves what follows. -/
def Reader.ReadsBack (reader : Reader Json) (v : Json) : Prop :=
  ∀ rest, EndsNumber rest → reader (printed v ++ rest) = .ok (v, rest)

/-! ## Lists -/

section

variable {inner : Reader Json} {depth : Nat} {items : List Json}

/-- What `listOf` does with each item. -/
def consItem (inner : Reader Json) (acc : List Json) : Reader (List Json) := fun s => do
  let (v, s) ← inner s
  return (v :: acc, s)

theorem consItem_printed {v : Json} (h : inner.ReadsBack v) (acc : List Json) {rest : Bytes}
    (hrest : EndsNumber rest) : consItem inner acc (printed v ++ rest) = .ok (v :: acc, rest) := by
  rw [consItem, h rest hrest]
  rfl

/-- The end of a list. -/
theorem items_end (fuel : Nat) (first : Bool) (acc : List Json) (rest : Bytes) :
    Json.items (consItem inner) (fuel + 1) first acc (93 :: rest) = .ok (acc, rest) := by
  have hspace : skipSpace (93 :: rest) = 93 :: rest := skipSpace_cons (by decide) rest
  simp only [Json.items, nextItem, closeList, hspace]
  rfl

/-- What follows an item of a list. -/
theorem endsNumber_items (items : List Json) (rest : Bytes) :
    EndsNumber ((items.flatMap fun v => 44 :: printed v) ++ 93 :: rest) := by
  cases items with
  | nil => exact endsNumber_cons (.inr (.inl rfl)) rest
  | cons v vs => exact endsNumber_cons (.inl rfl) _

/-- The items behind the first are read back. -/
theorem items_printed_tail (hplain : ∀ v ∈ items, Plain depth v)
    (hinner : ∀ v ∈ items, inner.ReadsBack v) (acc : List Json) (rest : Bytes) (fuel : Nat)
    (hfuel : ((items.flatMap fun v => 44 :: printed v) ++ 93 :: rest).length ≤ fuel) :
    Json.items (consItem inner) fuel false acc
        ((items.flatMap fun v => 44 :: printed v) ++ 93 :: rest) =
      .ok (items.reverse ++ acc, rest) := by
  induction items generalizing acc fuel with
  | nil =>
    cases fuel with
    | zero => cases hfuel
    | succ fuel => exact items_end fuel false acc rest
  | cons v vs ih =>
    obtain ⟨b, s, hprinted, hspace, hbracket⟩ := exists_first_printed (hplain v List.mem_cons_self)
    have hrest := endsNumber_items vs rest
    generalize htail : (vs.flatMap fun v => 44 :: printed v) ++ 93 :: rest = tail at ih hrest
    have hinput : ((v :: vs).flatMap fun v => 44 :: printed v) ++ 93 :: rest =
        44 :: (printed v ++ tail) := by
      rw [List.flatMap_cons, List.cons_append, List.cons_append, List.append_assoc, htail]
    have hnext : nextItem false (44 :: (printed v ++ tail)) = .ok (true, printed v ++ tail) := by
      have hcomma : skipSpace (44 :: (printed v ++ tail)) = 44 :: (printed v ++ tail) :=
        skipSpace_cons (by decide) _
      rw [nextItem, hcomma, hprinted, List.cons_append]
      simp [skipSpace_cons hspace, hbracket]
    rw [hinput] at hfuel ⊢
    cases fuel with
    | zero => cases hfuel
    | succ fuel =>
      have hlength : tail.length ≤ fuel := by
        simp only [List.length_cons, List.length_append] at hfuel
        omega
      rw [Json.items, hnext]
      simp only [bind, Except.bind, if_true,
        consItem_printed (hinner v List.mem_cons_self) acc hrest]
      rw [ih (fun w hw => hplain w (List.mem_cons_of_mem v hw))
        (fun w hw => hinner w (List.mem_cons_of_mem v hw)) (v :: acc) fuel hlength,
        List.reverse_cons, List.append_assoc, List.singleton_append]

/-- A printed list is read back from behind its bracket. -/
theorem listOf_printed (hplain : ∀ v ∈ items, Plain depth v)
    (hinner : ∀ v ∈ items, inner.ReadsBack v) (rest : Bytes) :
    listOf inner (Text.bytes (itemsText items) ++ 93 :: rest) = .ok (items.reverse, rest) := by
  show Json.items (consItem inner) _ true [] _ = _
  cases items with
  | nil => exact items_end _ true [] rest
  | cons v vs =>
    obtain ⟨b, s, hprinted, hspace, hbracket⟩ := exists_first_printed (hplain v List.mem_cons_self)
    have hrest := endsNumber_items vs rest
    have htail (fuel : Nat) :=
      items_printed_tail (fun w hw => hplain w (List.mem_cons_of_mem v hw))
        (fun w hw => hinner w (List.mem_cons_of_mem v hw)) [v] rest fuel
    rw [bytes_itemsText, List.append_assoc]
    generalize (vs.flatMap fun v => 44 :: printed v) ++ 93 :: rest = tail at hrest htail
    have hnext : nextItem true (printed v ++ tail) = .ok (true, printed v ++ tail) := by
      rw [nextItem, hprinted, List.cons_append]
      simp [skipSpace_cons hspace, hbracket]
    rw [Json.items, hnext]
    simp only [bind, Except.bind, if_true,
      consItem_printed (hinner v List.mem_cons_self) [] hrest]
    rw [htail _ (by rw [List.length_append]; omega), List.reverse_cons]

end

/-! ## Objects -/

section

variable {inner : Reader Json} {fields : Fields}

theorem putMember_printed {f : String × Json} (h : inner.ReadsBack f.2) {acc : Fields}
    (hkey : f.1 ∉ acc.keys) {rest : Bytes} (hrest : EndsNumber rest) :
    putMember inner f.1 acc (58 :: (printed f.2 ++ rest)) = .ok (acc ++ [f], rest) := by
  have hcolon : colon (58 :: (printed f.2 ++ rest)) = .ok (printed f.2 ++ rest) := by
    rw [colon, skipSpace_cons (by decide)]
    rfl
  rw [putMember, hcolon]
  simp only [bind, Except.bind, h rest hrest, Fields.put_of_not_mem_keys hkey]
  rfl

/-- The end of an object. -/
theorem members_end (fuel : Nat) (first : Bool) (acc : Fields) (rest : Bytes) :
    members (putMember inner) (fuel + 1) first acc (125 :: rest) = .ok (acc, rest) := by
  have hspace : skipSpace (125 :: rest) = 125 :: rest := skipSpace_cons (by decide) rest
  simp only [members, nextKey, closeObject, hspace]
  rfl

/-- What follows a member of an object. -/
theorem endsNumber_members (fields : Fields) (rest : Bytes) :
    EndsNumber ((fields.flatMap fun f => 44 :: printedField f) ++ 125 :: rest) := by
  cases fields with
  | nil => exact endsNumber_cons (.inr (.inr rfl)) rest
  | cons f fs => exact endsNumber_cons (.inl rfl) _

/-- The text of a member begins with a quote, and behind it its key is read back. -/
theorem exists_of_printedField (f : String × Json) (rest : Bytes) :
    ∃ s, printedField f ++ rest = 34 :: s ∧
      string s = .ok (f.1, 58 :: (printed f.2 ++ rest)) := by
  refine ⟨quotedBytes f.1 ++ 34 :: 58 :: (printed f.2 ++ rest), ?_, string_quoted f.1 _⟩
  simp [printedField]

/-- The members behind the first are read back. -/
theorem members_printed_tail (hinner : ∀ f ∈ fields, inner.ReadsBack f.2) (acc : Fields)
    (hkeys : (acc ++ fields).keys.Nodup) (rest : Bytes) (fuel : Nat)
    (hfuel : ((fields.flatMap fun f => 44 :: printedField f) ++ 125 :: rest).length ≤ fuel) :
    members (putMember inner) fuel false acc
        ((fields.flatMap fun f => 44 :: printedField f) ++ 125 :: rest) =
      .ok (acc ++ fields, rest) := by
  induction fields generalizing acc fuel with
  | nil =>
    rw [List.append_nil]
    cases fuel with
    | zero => cases hfuel
    | succ fuel => exact members_end fuel false acc rest
  | cons f fs ih =>
    have hrest := endsNumber_members fs rest
    generalize htail : (fs.flatMap fun f => 44 :: printedField f) ++ 125 :: rest = tail at ih hrest
    obtain ⟨s, hfield, hkey⟩ := exists_of_printedField f tail
    have hinput : ((f :: fs).flatMap fun f => 44 :: printedField f) ++ 125 :: rest =
        44 :: (printedField f ++ tail) := by
      rw [List.flatMap_cons, List.cons_append, List.cons_append, List.append_assoc, htail]
    have hnext : nextKey false (44 :: (printedField f ++ tail)) =
        .ok (some f.1, 58 :: (printed f.2 ++ tail)) := by
      have hcomma : skipSpace (44 :: (printedField f ++ tail)) = 44 :: (printedField f ++ tail) :=
        skipSpace_cons (by decide) _
      have hquote : skipSpace (34 :: s) = 34 :: s := skipSpace_cons (by decide) s
      rw [nextKey, hcomma, hfield]
      simp [hquote, hkey, bind, Except.bind, pure, Except.pure]
    have hsplit : acc ++ f :: fs = acc ++ [f] ++ fs := by simp
    have hnew : f.1 ∉ acc.keys := by
      rw [Fields.keys, List.map_append] at hkeys
      exact fun hmem => (List.nodup_append.mp hkeys).2.2 _ hmem _ List.mem_cons_self rfl
    rw [hinput] at hfuel ⊢
    cases fuel with
    | zero => cases hfuel
    | succ fuel =>
      have hlength : tail.length ≤ fuel := by
        simp only [List.length_cons, List.length_append] at hfuel
        omega
      rw [members, hnext]
      simp only [bind, Except.bind, putMember_printed (hinner f List.mem_cons_self) hnew hrest]
      rw [hsplit] at hkeys ⊢
      exact ih (fun g hg => hinner g (List.mem_cons_of_mem f hg)) (acc ++ [f]) hkeys fuel hlength

/-- A printed object is read back from behind its brace. -/
theorem fieldsOf_printed (hinner : ∀ f ∈ fields, inner.ReadsBack f.2) (hkeys : fields.keys.Nodup)
    (rest : Bytes) :
    fieldsOf inner (Text.bytes (fieldsText fields) ++ 125 :: rest) = .ok (fields, rest) := by
  show members (putMember inner) _ true [] _ = _
  cases fields with
  | nil => exact members_end _ true [] rest
  | cons f fs =>
    have hrest := endsNumber_members fs rest
    have htail (fuel : Nat) :=
      members_printed_tail (fun g hg => hinner g (List.mem_cons_of_mem f hg)) [f] hkeys rest fuel
    rw [bytes_fieldsText, List.append_assoc]
    generalize (fs.flatMap fun f => 44 :: printedField f) ++ 125 :: rest = tail at hrest htail
    obtain ⟨s, hfield, hkey⟩ := exists_of_printedField f tail
    have hnext : nextKey true (printedField f ++ tail) =
        .ok (some f.1, 58 :: (printed f.2 ++ tail)) := by
      have hquote : skipSpace (34 :: s) = 34 :: s := skipSpace_cons (by decide) s
      rw [nextKey, hfield, hquote]
      simp [hkey, bind, Except.bind, pure, Except.pure]
    have hfirst : putMember inner f.1 [] (58 :: (printed f.2 ++ tail)) = .ok ([f], tail) :=
      putMember_printed (hinner f List.mem_cons_self) List.not_mem_nil hrest
    rw [members, hnext]
    simp only [bind, Except.bind, hfirst]
    rw [htail _ (by rw [List.length_append]; omega), List.singleton_append]

end

/-! ## Values -/

/-- Any value of a kind that is no list and no object is read back, whatever reads what is inside.
-/
theorem readsBack_scalar {depth : Nat} {v : Json} (h : Plain depth v)
    (hscalar : (∀ items, v ≠ .arr items) ∧ ∀ fields, v ≠ .obj fields)
    (inner : Option (Reader Json)) : Reader.ReadsBack (valueWith inner) v := by
  intro rest hrest
  cases h with
  | null => rw [printed_null]; rfl
  | bool _ b =>
    cases b with
    | true => rw [printed_true]; rfl
    | false => rw [printed_false]; rfl
  | @int _ n hlow hhigh =>
    obtain ⟨b, s, hbytes, hfirst⟩ := exists_first_int n
    obtain ⟨hspace, -, hnull, htrue, hfalse⟩ := first_of_number hfirst
    have hread := signedNumber_int hlow hhigh hrest
    have hnumber : (decide (b = 45) || isDigit b) = true := by
      simpa using hfirst
    show valueWith inner (Text.bytes (Number.text (.int n)) ++ rest) = _
    rw [hbytes, List.cons_append] at hread ⊢
    rw [valueWith, skipSpace_cons hspace]
    simp only [if_neg hnull, if_neg htrue, if_neg hfalse, hnumber, if_true, hread]
    rfl
  | str _ s =>
    have hprinted : printed (.str s) ++ rest = 34 :: (quotedBytes s ++ 34 :: rest) := by
      show Text.bytes (quoted s) ++ rest = _
      rw [bytes_quoted]
      simp
    rw [hprinted, valueWith, skipSpace_cons (by decide)]
    simp only [string_quoted]
    rfl
  | arr _ => exact absurd rfl (hscalar.1 _)
  | obj _ _ => exact absurd rfl (hscalar.2 _)

/-- **A plain value is read back from its text**, wherever the text stands. -/
theorem readsBack_value {depth : Nat} {v : Json} (h : Plain depth v) :
    Reader.ReadsBack (value depth) v := by
  have hscalar {depth : Nat} {v : Json} (h : Plain depth v)
      (hkind : (∀ items, v ≠ .arr items) ∧ ∀ fields, v ≠ .obj fields) :
      Reader.ReadsBack (value depth) v := by
    cases depth with
    | zero => exact readsBack_scalar h hkind none
    | succ depth => exact readsBack_scalar h hkind (some (value depth))
  induction h with
  | null depth => exact hscalar (.null depth) ⟨nofun, nofun⟩
  | bool depth b => exact hscalar (.bool depth b) ⟨nofun, nofun⟩
  | int depth hlow hhigh => exact hscalar (.int depth hlow hhigh) ⟨nofun, nofun⟩
  | str depth s => exact hscalar (.str depth s) ⟨nofun, nofun⟩
  | @arr depth items hitems ih =>
    intro rest _
    have hprinted : printed (.arr items) ++ rest =
        91 :: (Text.bytes (itemsText items) ++ 93 :: rest) := by
      rw [printed_arr]
      simp
    rw [hprinted, value, valueWith, skipSpace_cons (by decide)]
    simp only [listOf_printed hitems ih rest, bind, Except.bind, List.reverse_reverse]
    rfl
  | @obj depth fields hkeys _ ih =>
    intro rest _
    have hprinted : printed (.obj fields) ++ rest =
        123 :: (Text.bytes (fieldsText fields) ++ 125 :: rest) := by
      rw [printed_obj]
      simp
    rw [hprinted, value, valueWith, skipSpace_cons (by decide)]
    simp only [fieldsOf_printed ih hkeys rest, bind, Except.bind]
    rfl

/-- **What is read from the text of a plain value is the value.** -/
theorem read_text {v : Json} (h : Plain depthLimit v) : read (Text.bytes v.text) = .ok v := by
  have hvalue := readsBack_value h [] endsNumber_nil
  rw [List.append_nil] at hvalue
  rw [read, readWith]
  simp only [printed] at hvalue
  simp only [hvalue, bind, Except.bind]
  rfl

end GuardedGateway.Json
