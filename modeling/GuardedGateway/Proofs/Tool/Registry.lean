import GuardedGateway.Tool.Registry

/-!
# What the table of tools holds

Ordering a list of entries brings in no new ones, so every tool of the gateway is one of the six in
`builtinSpecs`.  Two facts about those six carry the arguments about failures and authorisation: a
tool stands under the name of its capability (`NamesItsTools`), and the only tool that does its own
checking is the listing of namespaces.
-/

namespace GuardedGateway

namespace Text

variable {α : Type}

theorem mem_of_mem_insertBy {key : α → String} {a x : α} {l : List α} (h : x ∈ insertBy key a l) :
    x = a ∨ x ∈ l := by
  induction l with
  | nil => exact .inl (List.mem_singleton.mp h)
  | cons y rest ih =>
    unfold insertBy at h
    split at h
    · rcases List.mem_cons.mp h with rfl | hx
      · exact .inl rfl
      · exact .inr (List.mem_cons_of_mem _ hx)
    · split at h
      · exact List.mem_cons.mp h
      · rcases List.mem_cons.mp h with rfl | hx
        · exact .inr List.mem_cons_self
        · exact (ih hx).imp id (List.mem_cons_of_mem _)

theorem mem_of_mem_foldl_insertBy {key : α → String} {x : α} {l start : List α}
    (h : x ∈ l.foldl (fun sorted a => insertBy key a sorted) start) : x ∈ l ∨ x ∈ start := by
  induction l generalizing start with
  | nil => exact .inr h
  | cons a rest ih =>
    rcases ih h with hx | hx
    · exact .inl (List.mem_cons_of_mem _ hx)
    · rcases mem_of_mem_insertBy hx with rfl | hx
      · exact .inl List.mem_cons_self
      · exact .inr hx

/-- Ordering a list brings in no new entries. -/
theorem mem_of_mem_orderBy {key : α → String} {x : α} {l : List α} (h : x ∈ orderBy key l) :
    x ∈ l :=
  (mem_of_mem_foldl_insertBy h).resolve_right List.not_mem_nil

end Text

namespace Tool.Registry

/-- Every tool stands under the name by which its capability speaks of itself. -/
def NamesItsTools (registry : Registry) : Prop :=
  ∀ name spec, registry.get? name = some spec → spec.capability.toolName = name

variable {name : String} {spec : Spec}

theorem mem_builtinSpecs_of_get? (h : builtin.get? name = some spec) : spec ∈ builtinSpecs :=
  Text.mem_of_mem_orderBy (List.mem_of_find?_eq_some h)

/-- A tool of the gateway stands under the name of its capability. -/
theorem toolName_of_get?_builtin (h : builtin.get? name = some spec) :
    spec.capability.toolName = name := by
  have hall : ∀ s ∈ builtinSpecs, s.capability.toolName = s.name := by decide
  rw [hall spec (mem_builtinSpecs_of_get? h), name_eq_of_get? h]

theorem namesItsTools_builtin : builtin.NamesItsTools := fun _ _ => toolName_of_get?_builtin

/-- Only the listing of namespaces does its own checking. -/
theorem capability_of_get?_builtin (h : builtin.get? name = some spec)
    (hscope : spec.scope = .cluster) : spec.capability = .listNamespaces := by
  have hall : ∀ s ∈ builtinSpecs, s.scope = .cluster → s.capability = .listNamespaces := by decide
  exact hall spec (mem_builtinSpecs_of_get? h) hscope

end Tool.Registry

end GuardedGateway
