import Dagens.Runtime.LlmFlow

/-!
# The order of plugins

The manager keeps the names of its plugins by falling priority. Plugins of one
priority stay in the order of their registration.
-/

namespace Dagens.Runtime.PluginOrder

open LlmFlow List

variable {World Args Result : Type}

inductive Operation (World Args Result : Type) where
  | register (plugin : Plugin World Args Result)
  | unregister (name : String) (cleanupError : Option String)

/-- The manager with the names it has, by the time of their last registration. An
operation that fails changes nothing. -/
def operate (kept : PluginManager World Args Result × List String) :
    Operation World Args Result → PluginManager World Args Result × List String
  | .register plugin =>
    match register kept.1 plugin with
    | .ok manager => (manager, kept.2 ++ [plugin.name])
    | .error _ => kept
  | .unregister name cleanupError =>
    match unregister kept.1 name cleanupError with
    | .ok manager => (manager, kept.2.erase name)
    | .error _ => kept

variable (plugins : AList fun _ : String => Plugin World Args Result) (registered : List String)

def priorityOf (name : String) : Int :=
  ((plugins.lookup name).map (·.priority)).getD 0

/-- Of higher priority, or of the same one and registered before. -/
def Precedes (earlier later : String) : Prop :=
  priorityOf plugins later < priorityOf plugins earlier ∨
    priorityOf plugins later = priorityOf plugins earlier ∧ [earlier, later] <+ registered

def Ordered (kept : PluginManager World Args Result × List String) : Prop :=
  kept.2.Perm kept.1.pluginOrder ∧ kept.1.pluginOrder.Pairwise (Precedes kept.1.plugins kept.2)

variable {plugins registered} {kept : PluginManager World Args Result × List String}

theorem insert_ordered (plugin : Plugin World Args Result) {order : List String}
    (known : ∀ name ∈ order, name ∈ plugins ∧ name ≠ plugin.name ∧ name ∈ registered)
    (sorted : order.Pairwise (Precedes plugins registered)) :
    (insertByPriority plugins plugin order).Pairwise
      (Precedes (plugins.insert plugin.name plugin) (registered ++ [plugin.name])) := by
  induction order with
  | nil => exact pairwise_singleton _ _
  | cons name rest ih =>
    have own : priorityOf (plugins.insert plugin.name plugin) plugin.name = plugin.priority := by
      simp [priorityOf]
    have same : ∀ other ∈ name :: rest,
        priorityOf (plugins.insert plugin.name plugin) other = priorityOf plugins other := by
      intro other member
      rw [priorityOf, AList.lookup_insert_ne (known other member).2.1, priorityOf]
    have still : (name :: rest).Pairwise
        (Precedes (plugins.insert plugin.name plugin) (registered ++ [plugin.name])) := by
      refine sorted.imp_of_mem fun {earlier later} memberEarlier memberLater precedes => ?_
      rw [Precedes, same earlier memberEarlier, same later memberLater]
      exact precedes.imp_right (.imp_right fun sub => sub.trans (sublist_append_left _ _))
    rw [pairwise_cons] at sorted
    rw [forall_mem_cons] at known same
    obtain ⟨⟨present, -, member⟩, known⟩ := known
    obtain ⟨stored, found⟩ := Option.isSome_iff_exists.mp (AList.lookup_isSome.mpr present)
    have priority : priorityOf plugins name = stored.priority := by simp [priorityOf, found]
    simp only [insertByPriority, found, Option.map_some, Option.any_some, decide_eq_true_eq,
      ← priority]
    split_ifs with lower
    · refine pairwise_cons.mpr ⟨forall_mem_cons.mpr ⟨.inl ?_, fun later old => .inl ?_⟩, still⟩
      · rwa [same.1, own]
      · rw [same.2 later old, own]
        rcases sorted.1 later old with higher | ⟨equal, -⟩
        · exact higher.trans lower
        · exact equal.trans_lt lower
    · refine pairwise_cons.mpr ⟨fun later inserted => ?_, ih known sorted.2⟩
      rcases mem_cons.mp ((insert_by_priority_perm _ _ _).mem_iff.mp inserted) with rfl | old
      · rw [Precedes, own, same.1]
        refine (not_lt.mp lower).lt_or_eq.imp_right fun equal => ⟨equal, ?_⟩
        exact (singleton_sublist.mpr member).append (.refl _)
      · exact (pairwise_cons.mp still).1 later old

theorem register_ordered (ordered : Ordered kept) (plugin : Plugin World Args Result) :
    Ordered (operate kept (.register plugin)) := by
  simp only [operate, register]
  split_ifs with known
  · exact ordered
  refine ⟨?_, insert_ordered plugin (fun name member => ?_) ordered.2⟩
  · exact (perm_append_singleton _ _).trans ((ordered.1.cons _).trans
      (insert_by_priority_perm _ _ _).symm)
  · have present := (kept.1.complete name).mp member
    exact ⟨present, fun same => known (same ▸ present), ordered.1.mem_iff.mpr member⟩

theorem unregister_ordered (ordered : Ordered kept) (name : String)
    (cleanupError : Option String) : Ordered (operate kept (.unregister name cleanupError)) := by
  simp only [operate, unregister]
  split_ifs with known
  · cases cleanupError with
    | some => exact ordered
    | none =>
      refine ⟨ordered.1.erase name, (ordered.2.sublist erase_sublist).imp_of_mem ?_⟩
      intro earlier later memberEarlier memberLater precedes
      rw [kept.1.nodup.mem_erase_iff] at memberEarlier memberLater
      simp only [Precedes, priorityOf, AList.lookup_erase_ne memberEarlier.1,
        AList.lookup_erase_ne memberLater.1]
      refine precedes.imp_right (.imp_right fun sub => ?_)
      have erased := sub.erase name
      rwa [erase_of_not_mem (by simp [memberEarlier.1.symm, memberLater.1.symm])] at erased
  · exact ordered

/-- After any operations the order has every plugin once, by falling priority and
within a priority by the time of registration. -/
theorem plugins_in_order (operations : List (Operation World Args Result)) :
    let (manager, registered) := operations.foldl operate (newPluginManager, [])
    manager.pluginOrder.Perm manager.plugins.keys ∧ registered.Perm manager.pluginOrder ∧
      manager.pluginOrder.Pairwise (Precedes manager.plugins registered) := by
  have ordered : Ordered (operations.foldl operate (newPluginManager, [])) := by
    refine foldlRecOn operations operate ⟨.refl _, .nil⟩ fun kept ordered operation _ => ?_
    cases operation with
    | register plugin => exact register_ordered ordered plugin
    | unregister name cleanupError => exact unregister_ordered ordered name cleanupError
  refine ⟨?_, ordered⟩
  rw [perm_ext_iff_of_nodup (PluginManager.nodup _) (AList.keys_nodup _)]
  exact PluginManager.complete _

end Dagens.Runtime.PluginOrder
