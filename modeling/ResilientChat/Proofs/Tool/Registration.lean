import ResilientChat.Proofs.NameMap
import ResilientChat.Tool
import Mathlib.Data.List.Induction

/-!
How the tools of all modules come together. They do if no two have the same name, and then what is
made of them holds each tool under its name, in whatever order they came; otherwise the first name
that comes a second time is reported.
-/

namespace ResilientChat

/-- The first tool of these whose name another tool had before it has that name. -/
def FirstRepeated (tools : List Tool) (name : String) : Prop :=
  ∃ before t rest, tools = before ++ t :: rest ∧ (before.map Tool.name).Nodup ∧
    t.name ∈ before.map Tool.name ∧ t.name = name

theorem exists_firstRepeated {tools : List Tool} (h : ¬(tools.map Tool.name).Nodup) :
    ∃ name, FirstRepeated tools name := by
  induction tools using List.reverseRecOn with
  | nil => exact absurd List.nodup_nil h
  | append_singleton before t ih =>
      by_cases hbefore : (before.map Tool.name).Nodup
      · have hmem : t.name ∈ before.map Tool.name := by
          by_contra hfresh
          apply h
          rw [List.map_append, List.map_singleton]
          exact List.nodup_append_comm.mp (List.nodup_cons.mpr ⟨hfresh, hbefore⟩)
        exact ⟨t.name, before, t, [], rfl, hbefore, hmem, rfl⟩
      · obtain ⟨name, front, t', rest, rfl, hfront⟩ := ih hbefore
        exact ⟨name, front, t', rest ++ [t], List.append_assoc _ _ _, hfront⟩

namespace Toolbox

/-- The toolbox holds these tools under their names, and nothing else. -/
def Holds (b : Toolbox) (tools : List Tool) : Prop :=
  ∀ name t, b.tools.get? name = some t ↔ t ∈ tools ∧ t.name = name

variable {b b' : Toolbox} {tools : List Tool} {t : Tool} {name module : String}

theorem holds_empty : (∅ : Toolbox).Holds [] := fun _ t =>
  ⟨fun h => (Option.some_ne_none t h.symm).elim, fun h => (List.not_mem_nil h.1).elim⟩

/-- Only the tools matter, not their order. -/
theorem Holds.unique {tools' : List Tool} (h : b.Holds tools) (h' : b'.Holds tools')
    (hsame : ∀ t, t ∈ tools ↔ t ∈ tools') : b = b' := by
  apply congrArg Toolbox.mk
  apply NameMap.eq_of_get?
  intro name
  ext t
  rw [h name t, h' name t, hsame]

section Register

theorem Holds.contains_iff (h : b.Holds tools) :
    b.tools.contains name = true ↔ name ∈ tools.map Tool.name := by
  rw [NameMap.contains, Option.isSome_iff_exists, List.mem_map]
  exact exists_congr fun t => h name t

theorem Holds.register (h : b.Holds tools) (hfresh : t.name ∉ tools.map Tool.name) :
    ∃ b', b.register t = .ok b' ∧ b'.Holds (tools ++ [t]) := by
  refine ⟨_, if_neg (mt h.contains_iff.mp hfresh), ?_⟩
  intro name u
  rw [NameMap.get?_insert, List.mem_append, List.mem_singleton]
  by_cases hname : name = t.name
  · subst hname
    rw [if_pos rfl, Option.some.injEq]
    constructor
    · rintro rfl
      exact ⟨.inr rfl, rfl⟩
    · rintro ⟨hold | rfl, hu⟩
      · exact absurd (hu ▸ List.mem_map_of_mem hold) hfresh
      · rfl
  · rw [if_neg hname, h name u]
    constructor
    · rintro ⟨hmem, hu⟩
      exact ⟨.inl hmem, hu⟩
    · rintro ⟨hold | rfl, hu⟩
      · exact ⟨hold, hu⟩
      · exact absurd hu.symm hname

theorem Holds.register_of_mem (h : b.Holds tools) (hmem : t.name ∈ tools.map Tool.name) :
    b.register t = .error (.duplicate t.name) :=
  if_pos (h.contains_iff.mpr hmem)

theorem registerAll_append (b : Toolbox) (tools more : List Tool) :
    b.registerAll (tools ++ more) = (b.registerAll tools).bind (·.registerAll more) :=
  List.foldlM_append

/-- Module after module is tool after tool. -/
theorem ofModules_eq (modules : List (List Tool)) :
    ofModules modules = registerAll ∅ modules.flatten := by
  suffices h : ∀ b : Toolbox, modules.foldlM registerAll b = b.registerAll modules.flatten from h ∅
  induction modules with
  | nil => exact fun _ => rfl
  | cons tools modules ih =>
      intro b
      rw [List.foldlM_cons, List.flatten_cons, registerAll_append]
      exact congrArg (Except.bind (b.registerAll tools)) (funext ih)

/-- Tools with different names all find their place. -/
theorem exists_registerAll (h : (tools.map Tool.name).Nodup) :
    ∃ b, registerAll ∅ tools = .ok b ∧ b.Holds tools := by
  induction tools using List.reverseRecOn with
  | nil => exact ⟨∅, rfl, holds_empty⟩
  | append_singleton before t ih =>
      rw [List.map_append, List.map_singleton] at h
      obtain ⟨hfresh, hbefore⟩ := List.nodup_cons.mp (List.nodup_append_comm.mp h)
      obtain ⟨b, hb, hholds⟩ := ih hbefore
      obtain ⟨b', hb', hholds'⟩ := hholds.register hfresh
      refine ⟨b', ?_, hholds'⟩
      rw [registerAll_append, hb, Except.bind, registerAll, List.foldlM_cons, hb']
      rfl

/-- The tools before the repeated name find their place; what comes after it does not matter. -/
theorem registerAll_of_firstRepeated (h : FirstRepeated tools name) :
    registerAll ∅ tools = .error (.duplicate name) := by
  obtain ⟨before, t, rest, rfl, hbefore, hmem, rfl⟩ := h
  obtain ⟨b, hb, hholds⟩ := exists_registerAll hbefore
  rw [registerAll_append, hb, Except.bind, registerAll, List.foldlM_cons,
    hholds.register_of_mem hmem]
  rfl

end Register

section OfModules

variable {modules : List (List Tool)}

theorem exists_ofModules_iff :
    (∃ b, ofModules modules = .ok b) ↔ (modules.flatten.map Tool.name).Nodup := by
  rw [ofModules_eq]
  constructor
  · rintro ⟨b, hb⟩
    by_contra h
    obtain ⟨name, hrepeated⟩ := exists_firstRepeated h
    cases (registerAll_of_firstRepeated hrepeated).symm.trans hb
  · intro h
    obtain ⟨b, hb, -⟩ := exists_registerAll h
    exact ⟨b, hb⟩

theorem holds_of_ofModules (h : ofModules modules = .ok b) : b.Holds modules.flatten := by
  obtain ⟨b', hb', hholds⟩ := exists_registerAll (exists_ofModules_iff.mp ⟨b, h⟩)
  rw [ofModules_eq, hb'] at h
  cases h
  exact hholds

theorem ofModules_eq_error_iff {fault : ToolFault} :
    ofModules modules = .error fault ↔
      ∃ name, FirstRepeated modules.flatten name ∧ fault = .duplicate name := by
  rw [ofModules_eq]
  constructor
  · intro h
    have hnodup : ¬(modules.flatten.map Tool.name).Nodup := by
      intro hnodup
      obtain ⟨b, hb, -⟩ := exists_registerAll hnodup
      cases hb.symm.trans h
    obtain ⟨name, hrepeated⟩ := exists_firstRepeated hnodup
    refine ⟨name, hrepeated, ?_⟩
    exact Except.error.inj (h.symm.trans (registerAll_of_firstRepeated hrepeated))
  · rintro ⟨name, hrepeated, rfl⟩
    exact registerAll_of_firstRepeated hrepeated

/-- The same tools in another order make the same toolbox. -/
theorem ofModules_of_perm {modules' : List (List Tool)} (h : ofModules modules = .ok b)
    (hperm : modules'.flatten.Perm modules.flatten) : ofModules modules' = .ok b := by
  have hnodup : (modules'.flatten.map Tool.name).Nodup :=
    (hperm.map Tool.name).nodup_iff.mpr (exists_ofModules_iff.mp ⟨b, h⟩)
  obtain ⟨b', hb'⟩ := exists_ofModules_iff.mpr hnodup
  have heq : b' = b :=
    (holds_of_ofModules hb').unique (holds_of_ofModules h) fun _ => hperm.mem_iff
  rw [hb', heq]

end OfModules

section Find

theorem find_eq_ok_iff : b.find name = .ok t ↔ b.tools.get? name = some t := by
  rw [find]
  cases b.tools.get? name with
  | none => simp
  | some found => simp

theorem Holds.mem_entries (h : b.Holds tools) {e : String × Tool} (he : e ∈ b.tools.entries) :
    e.2 ∈ tools ∧ e.2.name = e.1 :=
  (h e.1 e.2).mp (b.tools.get?_eq_some_iff_mem.mpr he)

theorem Holds.mem_offered (h : b.Holds tools) :
    name ∈ b.offered module ↔ ∃ t ∈ tools, t.name = name ∧ t.module = module := by
  simp only [offered, ofModule, NameMap.values, List.mem_map, List.mem_filter, decide_eq_true_eq]
  constructor
  · rintro ⟨t, ⟨⟨e, he, rfl⟩, hmodule⟩, hname⟩
    exact ⟨e.2, (h.mem_entries he).1, hname, hmodule⟩
  · rintro ⟨t, hmem, hname, hmodule⟩
    have he := b.tools.get?_eq_some_iff_mem.mp ((h name t).mpr ⟨hmem, hname⟩)
    exact ⟨t, ⟨⟨(name, t), he, rfl⟩, hmodule⟩, hname⟩

/-- The names come in ascending order, each once. -/
theorem Holds.pairwise_offered (h : b.Holds tools) (module : String) :
    (b.offered module).Pairwise (· < ·) := by
  have hvalues : b.tools.values.Pairwise fun t u => t.name < u.name := by
    refine List.pairwise_map.mpr (b.tools.ascending.imp_of_mem fun he he' hlt => ?_)
    rwa [(h.mem_entries he).2, (h.mem_entries he').2]
  exact List.pairwise_map.mpr (hvalues.filter _)

end Find

end Toolbox

end ResilientChat
