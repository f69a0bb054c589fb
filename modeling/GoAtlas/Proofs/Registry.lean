/-
  GoAtlas.Proofs.Registry — the registry as a multiset of places.

  Entries are paths and may repeat, equality is by segments, and a removal moves the last entry into the gap.
  None of this shows in `places`, which says only how often each place is registered:
  - `places_mark` / `places_remove`: marking adds one occurrence of a place, removing takes one away.
  - `checkOrRegister_does`: looking a folder up adds at most one occurrence, and only of that folder.
  - `places_useAll`: over any uses, what is registered in the end is what was at first, with all that was gained
    and without all that was lost.
  - `useAll_places`: every use of a registry does to the multiset what it says, and no more.
-/
import GoAtlas.Files.Tree
import GoAtlas.Module.Vendor
import Mathlib.Algebra.Order.Group.Multiset
import Mathlib.Data.List.Perm.Basic
import Mathlib.Data.Multiset.Filter

namespace GoAtlas.Module.Registry

/-! ## Places -/

/-- The places of the entries, as often as each is registered. -/
def places (r : Registry) : Multiset Segments := r.folders.map Path.segments

theorem mem_places {r : Registry} {folder : Path} : folder.segments ∈ r.places ↔ r.contains folder = true := by
  simp [places, contains, Path.same]

theorem contains_eq_decide (r : Registry) (folder : Path) :
    r.contains folder = decide (folder.segments ∈ r.places) := by
  rw [Bool.eq_iff_iff, decide_eq_true_iff, mem_places]

theorem places_mark (r : Registry) (folder : Path) : (r.mark folder).places = folder.segments ::ₘ r.places := by
  have h : ((r.folders ++ [folder]).map Path.segments).Perm (folder.segments :: r.folders.map Path.segments) := by
    rw [List.map_append]
    exact List.perm_append_singleton ..
  exact Multiset.coe_eq_coe.mpr h

/-- An entry whose slot the last one takes: it is gone, and all others are there. -/
theorem perm_set_dropLast {fs : List Path} {last f : Path} {i : Nat} (hlast : fs.getLast? = some last)
    (hf : fs[i]? = some f) : fs.Perm (f :: (fs.set i last).dropLast) := by
  obtain ⟨front, rfl⟩ := List.getLast?_eq_some_iff.mp hlast
  by_cases hi : i < front.length
  · have hset : ((front ++ [last]).set i last).dropLast = front.set i last := by
      rw [List.set_append_left _ _ hi, List.dropLast_concat]
    have hfi : front[i] = f := by
      rw [List.getElem?_append_left hi] at hf
      exact (List.getElem?_eq_some_iff.mp hf).2
    rw [hset, ← hfi]
    calc List.Perm (front ++ [last]) (last :: front) := List.perm_append_singleton ..
      List.Perm _ (last :: front[i] :: front.eraseIdx i) := (List.getElem_cons_eraseIdx_perm hi).symm.cons _
      List.Perm _ (front[i] :: last :: front.eraseIdx i) := .swap ..
      List.Perm _ (front[i] :: front.set i last) := (List.set_perm_cons_eraseIdx hi last).symm.cons _
  · -- the last entry itself: it takes its own slot and is dropped
    have hlen := (List.getElem?_eq_some_iff.mp hf).1
    simp only [List.length_append, List.length_singleton] at hlen
    obtain rfl : i = front.length := by omega
    obtain rfl : last = f := by simpa using hf
    rw [List.set_append_right _ _ (Nat.le_refl _)]
    simp

theorem remove_of_getElem? {r : Registry} {i : Nat} {f last : Path} (hlast : r.folders.getLast? = some last)
    (hf : r.folders[i]? = some f) : r.remove i = ⟨(r.folders.set i last).dropLast⟩ := by
  have hi := (List.getElem?_eq_some_iff.mp hf).1
  rw [remove, hlast]
  exact if_pos hi

theorem places_remove {r : Registry} {i : Nat} {f : Path} (hf : r.folders[i]? = some f) :
    r.places = f.segments ::ₘ (r.remove i).places := by
  have hne : r.folders ≠ [] := by
    intro h
    simp [h] at hf
  have hlast := List.getLast?_eq_some_getLast hne
  rw [remove_of_getElem? hlast hf]
  exact Multiset.coe_eq_coe.mpr ((perm_set_dropLast hlast hf).map Path.segments)

theorem remove_of_length_le {r : Registry} {i : Nat} (h : r.folders.length ≤ i) : r.remove i = r := by
  unfold remove
  split
  · exact if_neg (Nat.not_lt.mpr h)
  · rfl

/-- Taking out the only entry of a place leaves all other places as they are. -/
theorem places_remove_single {r : Registry} {i : Nat} {f : Path} (hf : r.folders[i]? = some f)
    (hone : r.places.count f.segments = 1) : (r.remove i).places = r.places.filter (· ≠ f.segments) := by
  have hr := places_remove hf
  have hgone : f.segments ∉ (r.remove i).places := by
    rw [hr, Multiset.count_cons_self] at hone
    exact Multiset.count_eq_zero.mp (by omega)
  rw [hr, Multiset.filter_cons_of_neg _ (by simp), eq_comm, Multiset.filter_eq_self]
  intro p hp e
  exact hgone (e ▸ hp)

/-! ## Uses -/

/-- A use of the registry; a folder is looked up in the files as they are then. -/
inductive Use (σ : Type) where
  | mark (folder : Path)
  | check (files : σ) (folder : Path)
  | remove (index : Nat)

variable {σ : Type} [FileSystem σ]

/-- What is answered, and the registry after the use. -/
def use (r : Registry) : Use σ → Option Nat × Registry
  | .mark folder => (none, r.mark folder)
  | .check files folder => r.checkOrRegister files folder
  | .remove index => (none, r.remove index)

def useAll (r : Registry) (uses : List (Use σ)) : Registry := uses.foldl (fun r u => (r.use u).2) r

/-- The folder can be registered for what it holds. -/
def IsVendored (files : σ) (folder : Path) : Prop :=
  hasVendorDir files folder = true ∧ hasModuleFile files folder = false ∧ hasLegacyManifest files folder = false

instance (files : σ) (folder : Path) : Decidable (IsVendored files folder) := inferInstanceAs (Decidable (_ ∧ _))

/-- The entry at `i` is the folder, and none before it is. -/
structure FirstAt (r : Registry) (folder : Path) (i : Nat) : Prop where
  entry : ∃ f, r.folders[i]? = some f ∧ f.same folder = true
  before : ∀ j < i, ∀ f, r.folders[j]? = some f → f.same folder = false

/-- All that a use can do, with its answer and the registry that it leaves. -/
inductive Does (r : Registry) : Use σ → Option Nat → Registry → Prop
  | mark {folder : Path} {r' : Registry} (h : r'.places = folder.segments ::ₘ r.places) :
      Does r (.mark folder) none r'
  | known {files : σ} {folder : Path} {i : Nat} (h : r.FirstAt folder i) : Does r (.check files folder) (some i) r
  | registers {files : σ} {folder : Path} {i : Nat} {r' : Registry} (hnew : folder.segments ∉ r.places)
      (hvendor : IsVendored files folder) (h : r'.places = folder.segments ::ₘ r.places) (hi : r'.FirstAt folder i) :
      Does r (.check files folder) (some i) r'
  | refuses {files : σ} {folder : Path} (hnew : folder.segments ∉ r.places) (hvendor : ¬IsVendored files folder) :
      Does r (.check files folder) none r
  | removes {i : Nat} {f : Path} {r' : Registry} (hf : r.folders[i]? = some f)
      (h : r.places = f.segments ::ₘ r'.places) : Does r (.remove i) none r'
  | outside {i : Nat} (h : r.folders.length ≤ i) : Does r (.remove i) none r

theorem firstAt_of_index? {r : Registry} {folder : Path} {i : Nat} (h : r.index? folder = some i) :
    r.FirstAt folder i := by
  obtain ⟨hi, hsame, hbefore⟩ := List.findIdx?_eq_some_iff_getElem.mp h
  refine ⟨⟨_, List.getElem?_eq_getElem hi, hsame⟩, ?_⟩
  intro j hj f hf
  obtain ⟨hjl, rfl⟩ := List.getElem?_eq_some_iff.mp hf
  simpa using hbefore j hj

/-- A folder that was not registered is first at the end. -/
theorem firstAt_mark {r : Registry} {folder : Path} (h : folder.segments ∉ r.places) :
    (r.mark folder).FirstAt folder r.folders.length := by
  refine ⟨⟨folder, List.getElem?_concat_length, Path.same_iff.mpr rfl⟩, ?_⟩
  intro j hj f hf
  have hin : f ∈ r.folders := by
    rw [mark, List.getElem?_append_left hj] at hf
    exact List.mem_of_getElem? hf
  rw [mem_places, Bool.not_eq_true] at h
  simpa using List.any_eq_false.mp h f hin

theorem checkOrRegister_does (r : Registry) (files : σ) (folder : Path) :
    Does r (.check files folder) (r.checkOrRegister files folder).1 (r.checkOrRegister files folder).2 := by
  unfold checkOrRegister
  cases hi : r.index? folder with
  | some i => exact .known (firstAt_of_index? hi)
  | none =>
    have hnew : folder.segments ∉ r.places := by
      have hany : (r.index? folder).isSome = r.contains folder := List.findIdx?_isSome
      rw [mem_places, ← hany, hi]
      simp
    simp only
    by_cases hm : (hasModuleFile files folder || hasLegacyManifest files folder) = true
    · rw [if_pos hm]
      refine .refuses hnew ?_
      intro hv
      rw [hv.2.1, hv.2.2] at hm
      cases hm
    · rw [if_neg hm]
      rw [Bool.not_eq_true, Bool.or_eq_false_iff] at hm
      by_cases hv : hasVendorDir files folder = true
      · rw [if_pos hv]
        exact .registers hnew ⟨hv, hm⟩ (places_mark r folder) (firstAt_mark hnew)
      · rw [if_neg hv]
        exact .refuses hnew fun h => hv h.1

theorem use_does (r : Registry) (u : Use σ) : Does r u (r.use u).1 (r.use u).2 := by
  cases u with
  | mark folder => exact .mark (places_mark r folder)
  | check files folder => exact r.checkOrRegister_does files folder
  | remove i =>
    cases hf : r.folders[i]? with
    | some f => exact .removes hf (places_remove hf)
    | none =>
      have hi := List.getElem?_eq_none_iff.mp hf
      have hr : (r.use (.remove i : Use σ)).2 = r := remove_of_length_le hi
      rw [hr]
      exact .outside hi

/-! ## Any number of uses -/

/-- The place that a use adds. -/
def gained (r : Registry) : Use σ → Multiset Segments
  | .mark folder => {folder.segments}
  | .check files folder => if folder.segments ∉ r.places ∧ IsVendored files folder then {folder.segments} else 0
  | .remove _ => 0

/-- The place that a use takes away. -/
def lost (r : Registry) : Use σ → Multiset Segments
  | .mark _ => 0
  | .check _ _ => 0
  | .remove i => Multiset.ofList (r.folders[i]?.map Path.segments).toList

def gainedBy (r : Registry) : List (Use σ) → Multiset Segments
  | [] => 0
  | u :: us => r.gained u + gainedBy (r.use u).2 us

def lostBy (r : Registry) : List (Use σ) → Multiset Segments
  | [] => 0
  | u :: us => r.lost u + lostBy (r.use u).2 us

theorem Does.places_eq {r r' : Registry} {u : Use σ} {answer : Option Nat} (h : Does r u answer r') :
    r'.places + r.lost u = r.places + r.gained u := by
  cases h with
  | mark h => rw [h, lost, gained, add_zero, add_comm, Multiset.singleton_add]
  | known h =>
    obtain ⟨f, hf, hsame⟩ := h.entry
    have hin : f.segments ∈ r.places := List.mem_map_of_mem (List.mem_of_getElem? hf)
    rw [Path.same_iff.mp hsame] at hin
    rw [lost, gained, if_neg fun hn => hn.1 hin]
  | registers hnew hvendor h hi =>
    rw [h, lost, gained, if_pos ⟨hnew, hvendor⟩, add_zero, add_comm, Multiset.singleton_add]
  | refuses hnew hvendor => rw [lost, gained, if_neg fun hn => hvendor hn.2]
  | @removes i f r' hf h =>
    have hlost : r.lost (.remove i : Use σ) = {f.segments} := by
      rw [lost, hf]
      rfl
    rw [h, hlost, gained, add_zero, add_comm, Multiset.singleton_add]
  | outside h => rw [lost, gained, List.getElem?_eq_none h, Option.map_none, Option.toList_none, Multiset.coe_nil]

theorem places_useAll (r : Registry) (uses : List (Use σ)) :
    (r.useAll uses).places + r.lostBy uses = r.places + r.gainedBy uses := by
  induction uses generalizing r with
  | nil => rfl
  | cons u us ih =>
    have hstep := (r.use_does u).places_eq
    calc (r.useAll (u :: us)).places + (r.lost u + lostBy (r.use u).2 us)
        = ((r.use u).2.useAll us).places + lostBy (r.use u).2 us + r.lost u := by
          rw [add_comm (r.lost u), ← add_assoc]
          rfl
      _ = (r.use u).2.places + r.lost u + gainedBy (r.use u).2 us := by rw [ih, add_right_comm]
      _ = r.places + (r.gained u + gainedBy (r.use u).2 us) := by rw [hstep, add_assoc]

/-- Over any uses of a registry, each one does what it may, the places in the end are those at first with all
    that was gained and without all that was lost, and removing the only entry of a place leaves exactly the
    other places. -/
theorem useAll_places (r : Registry) (uses : List (Use σ)) :
    (∀ before u after, uses = before ++ u :: after →
      Does (r.useAll before) u ((r.useAll before).use u).1 (r.useAll (before ++ [u]))) ∧
    (r.useAll uses).places + r.lostBy uses = r.places + r.gainedBy uses ∧
    ∀ i f, (r.useAll uses).folders[i]? = some f → (r.useAll uses).places.count f.segments = 1 →
      ((r.useAll uses).remove i).places = (r.useAll uses).places.filter (· ≠ f.segments) ∧
      ∀ g, ((r.useAll uses).remove i).contains g = ((r.useAll uses).contains g && !g.same f) := by
  refine ⟨?_, r.places_useAll uses, ?_⟩
  · intro before u after _
    have hlast : r.useAll (before ++ [u]) = ((r.useAll before).use u).2 := by
      rw [useAll, List.foldl_append]
      rfl
    rw [hlast]
    exact use_does _ u
  · intro i f hf hone
    have hplaces := places_remove_single hf hone
    refine ⟨hplaces, ?_⟩
    intro g
    rw [contains_eq_decide, hplaces, contains_eq_decide, Bool.eq_iff_iff]
    simp [Path.same]

/-- A folder marked under two spellings, of which one is taken out, and another that is there once. -/
theorem useAll_places_respelled :
    let r := empty.useAll
      ([.mark ⟨"/a"⟩, .mark ⟨"/b"⟩, .mark ⟨"/a/"⟩, .remove 0, .check .empty ⟨"/a/."⟩] : List (Use Tree))
    r.folders = [⟨"/a/"⟩, ⟨"/b"⟩] ∧ r.places.count (["/", "b"] : Segments) = 1 ∧
      (r.remove 1).contains ⟨"/b//"⟩ = false ∧ (r.remove 1).contains ⟨"/a"⟩ = true := by
  have h := (useAll_places empty
    ([.mark ⟨"/a"⟩, .mark ⟨"/b"⟩, .mark ⟨"/a/"⟩, .remove 0, .check .empty ⟨"/a/."⟩] : List (Use Tree))).2.2 1 ⟨"/b"⟩
    (by decide +kernel) (by decide +kernel)
  refine ⟨by decide +kernel, by decide +kernel, ?_, ?_⟩
  · rw [h.2]
    decide +kernel
  · rw [h.2]
    decide +kernel

end GoAtlas.Module.Registry
