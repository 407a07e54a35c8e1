import GuardedGateway.Proofs.Guard.Redaction
import Mathlib.Data.List.Forall2
import Mathlib.Data.List.Infix

/-!
# What redaction covers, and what it leaves

A redaction can fail in two ways: something secret survives it, or something else is lost.
`Covered v w` says that neither has happened to `v` on the way to `w`, and says so by paths alone.
As long as no key on a path is secret, what stands at its end is the same at the top: no item or
member is missing, moved or renamed, and no scalar is touched, whatever words it contains.  Where the
first secret key of a path ends, there is the marker, whatever stood there.

Nothing of how a value is taken apart enters this, and yet it leaves no choice: redaction covers a
value, and nothing else does (`Covered.eq_redact`).

A key is secret when a part of it spells one of the markers, the case of its letters apart
(`isSecretKey_iff`).  The check puts the whole key into lower case first; that this is the same, and
that the case of a key then never matters, rests on the markers being in lower case themselves.
-/

namespace GuardedGateway

/-! ## Letters, their case apart -/

namespace Text

/-- One character, or a capital of ASCII and its small letter. -/
def SameLetter (c d : Char) : Prop :=
  c = d ∨ ('A' ≤ c ∧ c ≤ 'Z' ∧ d.toNat = c.toNat + 32) ∨
    ('A' ≤ d ∧ d ≤ 'Z' ∧ c.toNat = d.toNat + 32)

/-- Two texts that differ in the case of letters of ASCII at most. -/
def EqualButCase (text other : List Char) : Prop :=
  List.Forall₂ SameLetter text other

theorem toNat_lowerAscii (c : Char) :
    (lowerAscii c).toNat = if 65 ≤ c.toNat ∧ c.toNat ≤ 90 then c.toNat + 32 else c.toNat := by
  have hcapital : 'A' ≤ c ∧ c ≤ 'Z' ↔ 65 ≤ c.toNat ∧ c.toNat ≤ 90 :=
    and_congr UInt32.le_iff_toNat_le UInt32.le_iff_toNat_le
  rw [lowerAscii]
  by_cases h : 65 ≤ c.toNat ∧ c.toNat ≤ 90
  · have hvalid : (c.toNat + 32).isValidChar := by
      left
      omega
    rw [if_pos (hcapital.mpr h), if_pos h, Char.ofNat, dif_pos hvalid]
    rfl
  · rw [if_neg (mt hcapital.mp h), if_neg h]

theorem sameLetter_iff {c d : Char} : SameLetter c d ↔ lowerAscii c = lowerAscii d := by
  have hle (a b : Char) : a ≤ b ↔ a.toNat ≤ b.toNat := UInt32.le_iff_toNat_le
  have hA : 'A'.toNat = 65 := rfl
  have hZ : 'Z'.toNat = 90 := rfl
  rw [SameLetter, ← Char.toNat_inj, ← Char.toNat_inj, toNat_lowerAscii, toNat_lowerAscii, hle, hle,
    hle, hle, hA, hZ]
  split <;> split <;> omega

theorem equalButCase_iff {text other : List Char} :
    EqualButCase text other ↔ text.map lowerAscii = other.map lowerAscii := by
  rw [← List.forall₂_eq_eq_eq, List.forall₂_map_left_iff, List.forall₂_map_right_iff]
  simp only [EqualButCase, ← sameLetter_iff]

end Text

namespace Guard

open Json (Step)
open Text (EqualButCase)

/-! ## Secret keys -/

theorem occurs_iff {word text : List Char} : occurs word text = true ↔ word <:+: text := by
  induction text with
  | nil => rw [occurs, List.isEmpty_iff, List.infix_nil]
  | cons c rest ih =>
    rw [occurs, Bool.or_eq_true, List.isPrefixOf_iff_prefix, ih, List.infix_cons_iff]

/-- **A key is secret when a part of it spells a marker**, in any case. -/
theorem isSecretKey_iff {key : String} :
    isSecretKey key = true ↔
      ∃ marker ∈ ["token", "secret", "password", "apikey", "api_key"],
        ∃ part, part <:+: key.toList ∧ EqualButCase part marker.toList := by
  have hlower : ∀ marker ∈ secretMarkers,
      marker.toList.map Text.lowerAscii = marker.toList := by decide
  rw [isSecretKey, List.any_eq_true]
  refine exists_congr fun marker => and_congr_right fun hmarker => ?_
  rw [occurs_iff, List.infix_map_iff]
  refine exists_congr fun part => and_congr_right fun _ => ?_
  rw [Text.equalButCase_iff, hlower marker hmarker]
  exact eq_comm

/-- Whether a key is secret does not depend on the case of its letters. -/
theorem isSecretKey_congr {key other : String} (h : EqualButCase key.toList other.toList) :
    isSecretKey key = isSecretKey other := by
  rw [isSecretKey, isSecretKey, Text.equalButCase_iff.mp h]

/-! ## Values that are covered -/

/-- No key on a path is secret. -/
def PlainPath (path : List Step) : Prop :=
  ∀ place key, .member place key ∈ path → isSecretKey key = false

/-- What stands in the one value is what is left of the other: at the end of a path without secret
keys the same, parts apart, and at the first secret key of a path the marker. -/
structure Covered (v w : Json) : Prop where
  plain : ∀ path x, PlainPath path → v.at? path = some x →
    ∃ y, w.at? path = some y ∧ x.SameAtTop y
  secret : ∀ path place key x, PlainPath path → isSecretKey key = true →
    v.at? (path ++ [.member place key]) = some x →
    w.at? (path ++ [.member place key]) = some (.str "[REDACTED]")

theorem plainPath_nil : PlainPath [] :=
  fun _ _ h => absurd h List.not_mem_nil

theorem plainPath_cons_iff {step : Step} {path : List Step} :
    PlainPath (step :: path) ↔ PlainPath [step] ∧ PlainPath path := by
  simp only [PlainPath, List.mem_cons, List.not_mem_nil, or_false, or_imp, forall_and]

theorem plainPath_item (place : Nat) : PlainPath [.item place] := by
  rintro _ _ h
  cases List.mem_singleton.mp h

theorem plainPath_member_iff {place : Nat} {key : String} :
    PlainPath [.member place key] ↔ isSecretKey key = false := by
  constructor
  · exact fun h => h place key List.mem_cons_self
  · intro h _ _ hmem
    cases List.mem_singleton.mp hmem
    exact h

/-! ## Redaction covers -/

theorem sameAtTop_redact (v : Json) : v.SameAtTop (redact v) := by
  cases v with
  | arr items =>
    show items.length = (redactItems items).length
    rw [redactItems_eq_map, List.length_map]
  | obj fields => exact (keys_redactFields fields).symm
  | null => rfl
  | bool b => rfl
  | num n => rfl
  | str s => rfl

/-- What stands under a key is replaced or redacted, as the key says. -/
theorem child?_redact_member (v : Json) (place : Nat) (key : String) :
    (redact v).child? (.member place key) =
      (v.child? (.member place key)).map fun part =>
        if isSecretKey key then .str redacted else redact part := by
  cases v with
  | obj fields =>
    rw [redact_obj, redactFields_eq_map, Json.child?, Json.child?, List.getElem?_map]
    cases fields[place]? with
    | none => rfl
    | some f =>
      obtain ⟨k, part⟩ := f
      rw [Option.map_some, Option.bind_some, Option.bind_some, redactField]
      by_cases hkey : k = key
      · rw [if_pos hkey, if_pos hkey, Option.map_some, hkey]
      · rw [if_neg hkey, if_neg hkey, Option.map_none]
  | _ => rfl

/-- Without a secret key the part that a step leads to is redacted. -/
theorem child?_redact_of_plain {step : Step} (h : PlainPath [step]) (v : Json) :
    (redact v).child? step = (v.child? step).map redact := by
  cases step with
  | item place =>
    cases v with
    | arr items => rw [redact_arr, redactItems_eq_map, Json.child?, Json.child?, List.getElem?_map]
    | _ => rfl
  | member place key =>
    simp only [child?_redact_member, plainPath_member_iff.mp h, Bool.false_eq_true, if_false]

/-- **Along a path without secret keys redaction goes on with what stands there.** -/
theorem at?_redact {path : List Step} (h : PlainPath path) (v : Json) :
    (redact v).at? path = (v.at? path).map redact := by
  induction path generalizing v with
  | nil => rfl
  | cons step rest ih =>
    obtain ⟨hstep, hrest⟩ := plainPath_cons_iff.mp h
    rw [Json.at?_cons, Json.at?_cons, child?_redact_of_plain hstep, Option.bind_map,
      Option.map_bind]
    exact congrArg (v.child? step).bind (funext fun part => ih hrest part)

/-- **Redaction covers**: every secret, and nothing else. -/
theorem covered_redact (v : Json) : Covered v (redact v) where
  plain path x hplain hx := by
    refine ⟨redact x, ?_, sameAtTop_redact x⟩
    rw [at?_redact hplain, hx, Option.map_some]
  secret path place key x hplain hsecret hx := by
    rw [Json.at?_append, Option.bind_eq_some_iff] at hx ⊢
    obtain ⟨part, hpart, hx⟩ := hx
    rw [Json.at?_singleton] at hx
    refine ⟨redact part, ?_, ?_⟩
    · rw [at?_redact hplain, hpart, Option.map_some]
    · rw [Json.at?_singleton, child?_redact_member, hx, Option.map_some, if_pos hsecret, redacted]

/-! ## Nothing else covers -/

namespace Covered

variable {v w : Json} (h : Covered v w)
include h

theorem sameAtTop : v.SameAtTop w := by
  obtain ⟨y, hy, hsame⟩ := h.plain [] v plainPath_nil rfl
  exact Option.some.inj hy ▸ hsame

/-- Parts that are reached without a secret key are covered. -/
theorem child {step : Step} {x y : Json} (hstep : PlainPath [step]) (hx : v.child? step = some x)
    (hy : w.child? step = some y) : Covered x y := by
  have hfollow (path : List Step) (hpath : PlainPath path) :
      PlainPath (step :: path) ∧ v.at? (step :: path) = x.at? path ∧
        w.at? (step :: path) = y.at? path := by
    rw [Json.at?_cons, Json.at?_cons, hx, hy]
    exact ⟨plainPath_cons_iff.mpr ⟨hstep, hpath⟩, rfl, rfl⟩
  constructor
  · intro path z hpath hz
    obtain ⟨hplain, hv, hw⟩ := hfollow path hpath
    rw [← hw]
    exact h.plain _ z hplain (hv.trans hz)
  · intro path place key z hpath hsecret hz
    obtain ⟨hplain, -, -⟩ := hfollow path hpath
    have hcovered := h.secret (step :: path) place key z hplain hsecret
    rw [List.cons_append, Json.at?_cons, Json.at?_cons, hx, hy] at hcovered
    exact hcovered hz

/-- What stands under a secret key is covered by the marker. -/
theorem child_of_secret {place : Nat} {key : String} {x : Json} (hsecret : isSecretKey key = true)
    (hx : v.child? (.member place key) = some x) :
    w.child? (.member place key) = some (.str redacted) := by
  have hcovered := h.secret [] place key x plainPath_nil hsecret
  rw [List.nil_append, Json.at?_singleton, Json.at?_singleton] at hcovered
  exact hcovered hx

end Covered

/-- **Only the redacted value covers**: what the paths say leaves no choice. -/
theorem Covered.eq_redact {v w : Json} (h : Covered v w) : w = redact v := by
  induction v generalizing w with
  | null => exact h.sameAtTop.symm
  | bool b => exact h.sameAtTop.symm
  | num n => exact h.sameAtTop.symm
  | str s => exact h.sameAtTop.symm
  | arr items ih =>
    cases w with
    | arr others =>
      have hlength : items.length = others.length := h.sameAtTop
      rw [redact_arr, redactItems_eq_map]
      congr 1
      refine List.ext_getElem (by rw [List.length_map, hlength]) fun place hplace _ => ?_
      have hitem : place < items.length := hlength ▸ hplace
      rw [List.getElem_map]
      exact ih _ (List.getElem_mem hitem) (h.child (plainPath_item place)
        (List.getElem?_eq_getElem hitem) (List.getElem?_eq_getElem hplace))
    | _ => cases h.sameAtTop
  | obj fields ih =>
    cases w with
    | obj others =>
      have hkeys : Fields.keys fields = Fields.keys others := h.sameAtTop
      have hlength : fields.length = others.length := by
        simpa [Fields.keys] using congrArg List.length hkeys
      rw [redact_obj, redactFields_eq_map]
      congr 1
      refine List.ext_getElem (by rw [List.length_map, hlength]) fun place hplace _ => ?_
      have hmember : place < fields.length := hlength ▸ hplace
      have hkey : fields[place].1 = others[place].1 := by
        simpa [Fields.keys] using List.getElem_of_eq hkeys (by simpa [Fields.keys] using hmember)
      have hx : (Json.obj fields).child? (.member place fields[place].1) =
          some fields[place].2 :=
        Json.child?_member_eq_some_iff.mpr (List.getElem?_eq_getElem hmember)
      have hy : (Json.obj others).child? (.member place fields[place].1) =
          some others[place].2 := by
        rw [hkey]
        exact Json.child?_member_eq_some_iff.mpr (List.getElem?_eq_getElem hplace)
      rw [List.getElem_map]
      cases hsecret : isSecretKey fields[place].1 with
      | true =>
        rw [redactField_of_secret hsecret]
        have hmarker := hy.symm.trans (h.child_of_secret hsecret hx)
        exact Prod.ext hkey.symm (Option.some.inj hmarker)
      | false =>
        rw [redactField_of_not_secret hsecret]
        exact Prod.ext hkey.symm (ih _ (List.getElem_mem hmember)
          (h.child (plainPath_member_iff.mpr hsecret) hx hy))
    | _ => cases h.sameAtTop

/-- **Redaction is exactly the scrub of secret keys.**  It covers a value, and nothing else does;
along a path without secret keys it goes on with what stands there, a second time it does nothing,
and it leaves a value as it is just when every secret key in it already holds the marker.  A key is
secret when a part of it spells one of five words, and the case of letters never matters. -/
theorem redacts_exactly_the_secrets (v : Json) :
    (∀ w, Covered v w ↔ w = redact v) ∧
      (∀ path, PlainPath path → (redact v).at? path = (v.at? path).map redact) ∧
      redact (redact v) = redact v ∧
      (redact v = v ↔ Scrubbed v) ∧
      (∀ key, isSecretKey key = true ↔
        ∃ marker ∈ ["token", "secret", "password", "apikey", "api_key"],
          ∃ part, part <:+: key.toList ∧ EqualButCase part marker.toList) ∧
      ∀ key other : String, EqualButCase key.toList other.toList →
        isSecretKey key = isSecretKey other :=
  ⟨fun _ => ⟨Covered.eq_redact, fun h => h ▸ covered_redact v⟩, fun _ h => at?_redact h v,
    redact_redact v, redact_eq_self_iff, fun _ => isSecretKey_iff, fun _ _ => isSecretKey_congr⟩

/-- In a list of pods a string that names a secret stays, and what stands under a secret key does
not, in whatever case the key is written. -/
theorem redacts_exactly_the_secrets_listedPod :
    let pod : Json := .obj [("name", .str "DB_PASSWORD"), ("Api_Key", .arr [.null])]
    let v : Json := .obj [("items", .arr [pod])]
    let path : List Step := [.member 0 "items", .item 0]
    PlainPath path ∧ isSecretKey "Api_Key" = true ∧
      (redact v).at? path =
        some (.obj [("name", .str "DB_PASSWORD"), ("Api_Key", .str "[REDACTED]")]) ∧
      (redact v).at? (path ++ [.member 1 "Api_Key"]) = some (.str "[REDACTED]") ∧
      EqualButCase "Api_Key".toList "aPI_kEY".toList ∧
      isSecretKey "Api_Key" = isSecretKey "aPI_kEY" := by
  intro pod v path
  obtain ⟨hcovers, hpaths, -, -, -, hcase⟩ := redacts_exactly_the_secrets v
  have hplain : PlainPath path :=
    plainPath_cons_iff.mpr ⟨plainPath_member_iff.mpr (by decide), plainPath_item 0⟩
  have hsecret : isSecretKey "Api_Key" = true := by decide
  have hletters : EqualButCase "Api_Key".toList "aPI_kEY".toList :=
    Text.equalButCase_iff.mpr (by decide)
  have hcovered := ((hcovers (redact v)).mpr rfl).secret path 1 "Api_Key" (.arr [.null]) hplain
    hsecret rfl
  exact ⟨hplain, hsecret, hpaths path hplain, hcovered, hletters, hcase _ _ hletters⟩

end Guard

end GuardedGateway
