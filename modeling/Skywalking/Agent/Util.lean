import Skywalking.RustStd.Net
import Skywalking.RustStd.Sort

/-!
`agent/util.rs`: the address an instance reports as its own.

`get_inst_default_ip` drops the multicast and the IPv4 link-local addresses of the host,
sorts the others by a comparator of early returns and takes the first one.

* `compareAddrs_eq`: the comparator sinks the private addresses in 172.16.0.0/12 behind
  the order of addresses, and the loopback addresses behind everything.
* `inst_addr_choice`: **which address is chosen**, told by the blocks of addresses and not by
  the filter and the comparator.
* `one_choice_iff`: the comparator is no total order, and **when the choice depends on the
  order** in which the interfaces are listed.
-/

namespace Skywalking

open RustStd

/-! ### The code -/

/-- The addresses that pass the filter: neither multicast nor IPv4 link-local. -/
def passesFilter (ip : IpAddr) : Bool :=
  !ip.isMulticast &&
    match ip with
    | .v4 v4 => !v4.isLinkLocal
    | .v6 _ => true

/-- A private IPv4 address whose first octet is 172. -/
def isPrivate172 : IpAddr → Bool
  | .v4 v4 => v4.isPrivate && v4.a == 172
  | .v6 _ => false

/-- The comparator given to `sort_by`. -/
def compareAddrs (a b : IpAddr) : Ordering :=
  if a.isLoopback then .gt
  else if b.isLoopback then .lt
  else if isPrivate172 a then .gt
  else if isPrivate172 b then .lt
  else a.cmp b

/-- The addresses that are sorted. -/
def addrs (ifaces : List IpAddr) : List IpAddr := ifaces.filter passesFilter

/-- `addrs[0]` after the sort, if there is one. -/
def instAddr (ifaces : List IpAddr) : Option IpAddr := (sortBy compareAddrs (addrs ifaces)).head?

/-- `get_inst_default_ip`, given what `get_if_addrs` returns. -/
def getInstDefaultIp (ifaces : Except String (List IpAddr)) : Except String String :=
  match ifaces with
  | .error e => .error e
  | .ok ifaces =>
      match instAddr ifaces with
      | none => .error "获取当前实例的ip地址失败"
      | some ip => .ok ip.toString

/-! ### The comparator -/

/-- The comparator sinks two classes of addresses, one after the other. -/
lemma compareAddrs_eq :
    compareAddrs = sinking IpAddr.isLoopback (sinking isPrivate172 IpAddr.cmp) := rfl

instance : IsStrictWeakOrder IpAddr (Smaller compareAddrs) := by
  rw [compareAddrs_eq]
  have : IsStrictWeakOrder IpAddr (Smaller (sinking isPrivate172 IpAddr.cmp)) :=
    sinking_strictWeakOrder
  exact sinking_strictWeakOrder

/-- The comparator is transitive in each of its answers. -/
lemma compareAddrs_trans {o : Ordering} {a b c : IpAddr} (hab : compareAddrs a b = o)
    (hbc : compareAddrs b c = o) : compareAddrs a c = o := by
  rw [compareAddrs_eq] at *
  exact sinking_trans (sinking_trans cmp_trans) hab hbc

/-- The block 172.16.0.0/12, which is the private 172.x addresses. -/
def InBlock172 (ip : IpAddr) : Prop := ∃ v4, ip = .v4 v4 ∧ v4.a = 172 ∧ 16 ≤ v4.b ∧ v4.b ≤ 31

/-- The second test of the comparator is the one for the block. -/
lemma isPrivate172_iff {ip : IpAddr} : isPrivate172 ip = true ↔ InBlock172 ip := by
  cases ip with
  | v4 v4 =>
      simp only [isPrivate172, Ipv4Addr.isPrivate, InBlock172, IpAddr.v4.injEq,
        exists_eq_left', Bool.and_eq_true, Bool.or_eq_true, beq_iff_eq, decide_eq_true_eq]
      constructor
      · rintro ⟨(h | ⟨⟨-, hlo⟩, hhi⟩) | ⟨h, -⟩, ha⟩
        · rw [ha] at h
          exact absurd h (by decide)
        · exact ⟨ha, hlo, hhi⟩
        · rw [ha] at h
          exact absurd h (by decide)
      · rintro ⟨ha, hlo, hhi⟩
        exact ⟨Or.inl (Or.inr ⟨⟨ha, hlo⟩, hhi⟩), ha⟩
  | v6 v6 => simp [isPrivate172, InBlock172]

lemma isPrivate172_eq_false_iff {ip : IpAddr} : isPrivate172 ip = false ↔ ¬ InBlock172 ip := by
  rw [← isPrivate172_iff, Bool.not_eq_true]

instance : DecidablePred InBlock172 := fun _ => decidable_of_iff _ isPrivate172_iff

/-- An address that is preferred: neither loopback nor private 172.x. -/
def Ordinary (ip : IpAddr) : Prop := ip.isLoopback = false ∧ ¬ InBlock172 ip

instance : DecidablePred Ordinary :=
  fun ip => inferInstanceAs (Decidable (ip.isLoopback = false ∧ ¬ InBlock172 ip))

/-- The tests of the comparator let the ordinary addresses through. -/
lemma ordinary_iff {ip : IpAddr} :
    Ordinary ip ↔ ip.isLoopback = false ∧ isPrivate172 ip = false := by
  rw [Ordinary, isPrivate172_eq_false_iff]

/-- A private 172.x address is no loopback address. -/
lemma isLoopback_of_isPrivate172 {ip : IpAddr} (h : isPrivate172 ip = true) :
    ip.isLoopback = false := by
  cases ip with
  | v4 v4 =>
      have ha : v4.a = 172 := eq_of_beq (Bool.and_eq_true_iff.mp h).2
      rw [IpAddr.isLoopback, Ipv4Addr.isLoopback, ha]
      decide
  | v6 v6 => cases h

/-- The comparator answers the reverse for swapped arguments unless both are loopback
addresses or both are private 172.x addresses. -/
lemma compareAddrs_swap_iff (a b : IpAddr) :
    compareAddrs a b = (compareAddrs b a).swap
      ↔ ¬ (a.isLoopback = true ∧ b.isLoopback = true)
        ∧ ¬ (isPrivate172 a = true ∧ isPrivate172 b = true) := by
  have hcmp : a.cmp b = (b.cmp a).swap := Std.OrientedCmp.eq_swap
  rw [compareAddrs_eq, sinking_swap_iff, sinking_swap_iff]
  refine and_congr_right fun _ => ⟨fun h hprivate => ?_, fun h _ _ => ⟨h, fun _ _ => hcmp⟩⟩
  have ha := isLoopback_of_isPrivate172 hprivate.1
  have hb := isLoopback_of_isPrivate172 hprivate.2
  exact (h ha hb).1 hprivate

/-- The comparator answers `Equal` between an ordinary address and itself, and nowhere else. -/
lemma compareAddrs_eq_iff (a b : IpAddr) : compareAddrs a b = .eq ↔ a = b ∧ Ordinary a := by
  rw [compareAddrs_eq, sinking_eq_iff, sinking_eq_iff, Std.LawfulEqCmp.compare_eq_iff_eq,
    ordinary_iff]
  constructor
  · rintro ⟨hloopback, -, hprivate, -, rfl⟩
    exact ⟨rfl, hloopback, hprivate⟩
  · rintro ⟨rfl, hloopback, hprivate⟩
    exact ⟨hloopback, hloopback, hprivate, hprivate, rfl⟩

/-! ### The choice -/

/-- An address that no instance reports: multicast or IPv4 link-local. -/
def Excluded (ip : IpAddr) : Prop :=
  ip.isMulticast = true ∨ ∃ v4, ip = .v4 v4 ∧ v4.isLinkLocal = true

/-- The filter lets nothing through but what is neither multicast nor IPv4 link-local. -/
lemma passesFilter_eq_true_iff {ip : IpAddr} : passesFilter ip = true ↔ ¬ Excluded ip := by
  cases ip <;> simp [passesFilter, Excluded]

instance : DecidablePred Excluded :=
  fun ip => decidable_of_iff (¬ passesFilter ip = true)
    (by rw [passesFilter_eq_true_iff, not_not])

/-- The sorted addresses are the others of the host. -/
lemma addrs_eq (ifaces : List IpAddr) :
    addrs ifaces = ifaces.filter fun ip => ¬ Excluded ip := by
  rw [addrs]
  refine List.filter_congr fun ip _ => ?_
  rw [Bool.eq_iff_iff, passesFilter_eq_true_iff, decide_eq_true_iff]

/-- Which of some addresses is wanted: the least ordinary one; where there is none a private
172.x one, and where there is none of these either a loopback address. -/
structure Preferred (candidates : List IpAddr) (ip : IpAddr) : Prop where
  mem : ip ∈ candidates
  ordinary : (∃ b ∈ candidates, Ordinary b) →
    Ordinary ip ∧ ∀ b ∈ candidates, Ordinary b → (ip.cmp b).isLE
  private172 : (∀ b ∈ candidates, ¬ Ordinary b) → (∃ b ∈ candidates, InBlock172 b) →
    InBlock172 ip
  loopback : (∀ b ∈ candidates, ¬ Ordinary b) → (∀ b ∈ candidates, ¬ InBlock172 b) →
    ip.isLoopback = true

/-- What is left without both sunk classes are the ordinary addresses. -/
lemma mem_filter_ordinary {addrs : List IpAddr} {b : IpAddr} :
    b ∈ (addrs.filter fun b => !b.isLoopback).filter (fun b => !isPrivate172 b)
      ↔ b ∈ addrs ∧ Ordinary b := by
  rw [List.mem_filter, List.mem_filter, and_assoc, ordinary_iff]
  simp only [Bool.not_eq_true']

/-- **What is smallest** under the comparator: the least ordinary address, every private
172.x address if there is no ordinary one, and everything if all are loopback addresses. -/
lemma smallest_compareAddrs_iff {addrs : List IpAddr} {ip : IpAddr} :
    Smallest compareAddrs addrs ip
      ↔ (Ordinary ip ∧ ∀ b ∈ addrs, Ordinary b → (ip.cmp b).isLE)
        ∨ (ip.isLoopback = false ∧ ∀ b ∈ addrs, b.isLoopback = false → isPrivate172 b = true)
        ∨ ∀ b ∈ addrs, b.isLoopback = true := by
  have hleast : Smallest IpAddr.cmp
      ((addrs.filter fun b => !b.isLoopback).filter fun b => !isPrivate172 b) ip
        ↔ ∀ b ∈ addrs, Ordinary b → (ip.cmp b).isLE := by
    rw [smallest_iff]
    simp only [mem_filter_ordinary, and_imp]
  rw [compareAddrs_eq, smallest_sinking_iff, smallest_sinking_iff, hleast]
  simp only [ordinary_iff, List.mem_filter, Bool.not_eq_true', and_imp]
  tauto

/-- A smallest address is a preferred one. -/
lemma preferred_of_smallest {addrs : List IpAddr} {ip : IpAddr} (hmem : ip ∈ addrs)
    (h : Smallest compareAddrs addrs ip) : Preferred addrs ip := by
  rcases smallest_compareAddrs_iff.mp h with hordinary | ⟨hip, hall⟩ | hall
  · exact
      { mem := hmem
        ordinary := fun _ => hordinary
        private172 := fun hnone => absurd hordinary.1 (hnone ip hmem)
        loopback := fun hnone => absurd hordinary.1 (hnone ip hmem) }
  · have hprivate := isPrivate172_iff.mp (hall ip hmem hip)
    refine ⟨hmem, ?_, fun _ _ => hprivate, fun _ hnone => absurd hprivate (hnone ip hmem)⟩
    rintro ⟨b, hb, hloopback, hb172⟩
    exact absurd (isPrivate172_iff.mp (hall b hb hloopback)) hb172
  · refine ⟨hmem, ?_, ?_, fun _ _ => hall ip hmem⟩
    · rintro ⟨b, hb, hloopback, -⟩
      exact absurd (hall b hb) (by simp [hloopback])
    · rintro - ⟨b, hb, hb172⟩
      exact absurd (hall b hb) (by simp [isLoopback_of_isPrivate172 (isPrivate172_iff.mpr hb172)])

/-- No address is found exactly if none passes the filter. -/
lemma instAddr_eq_none_iff {ifaces : List IpAddr} : instAddr ifaces = none ↔ addrs ifaces = [] := by
  rw [instAddr, List.head?_eq_none_iff, sortBy_eq_nil_iff]

/-- **Which address an instance reports.** `Less` is a strict weak order; an error is
returned exactly if every address is multicast or IPv4 link-local, and otherwise the text of
the preferred address among those that are neither, which every stable sort of them puts
first. -/
theorem inst_addr_choice :
    IsStrictWeakOrder IpAddr (Smaller compareAddrs) ∧
    ∀ ifaces : List IpAddr,
      ((∃ e, getInstDefaultIp (.ok ifaces) = .error e)
        ↔ ∀ ip ∈ ifaces, Excluded ip) ∧
      ∀ text, getInstDefaultIp (.ok ifaces) = .ok text →
        ∃ ip, ip.toString = text ∧ Preferred (ifaces.filter fun ip => ¬ Excluded ip) ip ∧
          ∀ sorted, StableSort compareAddrs (ifaces.filter fun ip => ¬ Excluded ip) sorted →
            sorted.head? = some ip := by
  refine ⟨inferInstance, fun ifaces => ⟨?_, fun text htext => ?_⟩⟩
  · have hnone : (∃ e, getInstDefaultIp (.ok ifaces) = .error e) ↔ instAddr ifaces = none := by
      rw [getInstDefaultIp]
      cases instAddr ifaces <;> simp
    rw [hnone, instAddr_eq_none_iff, addrs, List.filter_eq_nil_iff]
    exact forall₂_congr fun ip _ => by rw [passesFilter_eq_true_iff, not_not]
  · cases hip : instAddr ifaces with
    | none =>
        rw [getInstDefaultIp, hip] at htext
        cases htext
    | some ip =>
        rw [getInstDefaultIp, hip] at htext
        have hne : addrs ifaces ≠ [] := by
          intro h
          rw [instAddr_eq_none_iff.mpr h] at hip
          cases hip
        obtain ⟨b, hb, hhead, hsmallest⟩ := exists_head?_sortBy compareAddrs hne
        obtain rfl : b = ip := Option.some.inj (hhead.symm.trans hip)
        rw [← addrs_eq]
        refine ⟨b, Except.ok.inj htext, preferred_of_smallest hb hsmallest, fun sorted h => ?_⟩
        rw [head?_of_stableSort h, ← head?_sortBy, hhead]

/-! ### The order of the interfaces -/

/-- The addresses leave one choice: one of them is ordinary, or all those of the class that
comes next are the same. -/
def OneChoice (addrs : List IpAddr) : Prop :=
  (∃ b ∈ addrs, Ordinary b) ∨
  ((∃ b ∈ addrs, isPrivate172 b = true) ∧
    ∀ a ∈ addrs, ∀ b ∈ addrs, isPrivate172 a = true → isPrivate172 b = true → a = b) ∨
  ((∀ b ∈ addrs, b.isLoopback = true) ∧ ∀ a ∈ addrs, ∀ b ∈ addrs, a = b)

instance (addrs : List IpAddr) : Decidable (OneChoice addrs) :=
  inferInstanceAs (Decidable (_ ∨ _))

/-- Two ordinary addresses that are both least are the same. -/
lemma eq_of_least {addrs : List IpAddr} {a b : IpAddr} (ha : Preferred addrs a)
    (hb : Preferred addrs b) (h : ∃ c ∈ addrs, Ordinary c) : a = b := by
  obtain ⟨haord, haleast⟩ := ha.ordinary h
  obtain ⟨hbord, hbleast⟩ := hb.ordinary h
  exact Std.LawfulEqCmp.eq_of_compare
    (Std.OrientedCmp.isLE_antisymm (haleast b hb.mem hbord) (hbleast a ha.mem haord))

/-- The smallest addresses are all the same exactly if the addresses leave one choice. -/
lemma oneChoice_iff {addrs : List IpAddr} :
    (∀ a ∈ addrs, ∀ b ∈ addrs, Smallest compareAddrs addrs a → Smallest compareAddrs addrs b →
      a = b) ↔ OneChoice addrs := by
  by_cases hord : ∃ c ∈ addrs, Ordinary c
  · refine ⟨fun _ => Or.inl hord, fun _ a ha b hb hsa hsb => ?_⟩
    exact eq_of_least (preferred_of_smallest ha hsa) (preferred_of_smallest hb hsb) hord
  have hnone : ∀ c ∈ addrs, ¬ Ordinary c := fun c hc h => hord ⟨c, hc, h⟩
  -- without ordinary addresses an address that is no loopback address is private
  have hclass : ∀ c ∈ addrs, c.isLoopback = false → isPrivate172 c = true := by
    intro c hc hloopback
    by_contra hprivate
    exact hnone c hc (ordinary_iff.mpr ⟨hloopback, Bool.not_eq_true _ ▸ hprivate⟩)
  constructor
  · intro h
    refine Or.inr ?_
    by_cases hprivate : ∃ c ∈ addrs, isPrivate172 c = true
    · have hsmallest : ∀ c, isPrivate172 c = true → Smallest compareAddrs addrs c :=
        fun c hc => smallest_compareAddrs_iff.mpr
          (Or.inr (Or.inl ⟨isLoopback_of_isPrivate172 hc, hclass⟩))
      exact Or.inl ⟨hprivate,
        fun a ha b hb hpa hpb => h a ha b hb (hsmallest a hpa) (hsmallest b hpb)⟩
    · have hall : ∀ c ∈ addrs, c.isLoopback = true := by
        intro c hc
        by_contra hloopback
        exact hprivate ⟨c, hc, hclass c hc (Bool.not_eq_true _ ▸ hloopback)⟩
      have hsmallest : ∀ c, Smallest compareAddrs addrs c :=
        fun c => smallest_compareAddrs_iff.mpr (Or.inr (Or.inr hall))
      exact Or.inr ⟨hall, fun a ha b hb => h a ha b hb (hsmallest a) (hsmallest b)⟩
  · rintro (h | ⟨hprivate, h⟩ | ⟨-, h⟩) a ha b hb hsa hsb
    · exact absurd h hord
    · have hblock : ∃ c ∈ addrs, InBlock172 c :=
        hprivate.imp fun c hc => ⟨hc.1, isPrivate172_iff.mp hc.2⟩
      have hpa := (preferred_of_smallest ha hsa).private172 hnone hblock
      have hpb := (preferred_of_smallest hb hsb).private172 hnone hblock
      exact h a ha b hb (isPrivate172_iff.mpr hpa) (isPrivate172_iff.mpr hpb)
    · exact h a ha b hb

/-- The orders of the interfaces give the addresses that pass the filter in every order. -/
lemma forall_perm_addrs_iff {ifaces : List IpAddr} :
    (∀ ifaces' : List IpAddr, ifaces'.Perm ifaces → instAddr ifaces' = instAddr ifaces)
      ↔ ∀ l : List IpAddr, l.Perm (addrs ifaces) →
          (sortBy compareAddrs l).head? = (sortBy compareAddrs (addrs ifaces)).head? := by
  constructor
  · intro h l hl
    -- the addresses that the filter drops are put last
    have haddrs : addrs (l ++ ifaces.filter fun ip => !passesFilter ip) = l := by
      have hkept : ∀ ip ∈ l, passesFilter ip = true :=
        fun ip hip => (List.mem_filter.mp (hl.subset hip)).2
      rw [addrs, List.filter_append, List.filter_eq_self.mpr hkept, List.filter_filter]
      simp
    have hperm : (l ++ ifaces.filter fun ip => !passesFilter ip).Perm ifaces :=
      (hl.append_right _).trans (List.filter_append_perm passesFilter ifaces)
    have hsame := h _ hperm
    rwa [instAddr, instAddr, haddrs] at hsame
  · intro h ifaces' hperm
    exact h _ (hperm.filter passesFilter)

/-- **The comparator is a total order, and the choice independent of the order in which the
interfaces are listed, exactly outside of two classes.** It fails to be antisymmetric
between two loopback and between two private 172.x addresses, and to answer `Equal` between
an address of these classes and itself; it is transitive. The address chosen is the same in
every order exactly if the addresses leave one choice. -/
theorem one_choice_iff (a b c : IpAddr) (ifaces : List IpAddr) :
    (compareAddrs a b = (compareAddrs b a).swap
      ↔ ¬ (a.isLoopback = true ∧ b.isLoopback = true)
        ∧ ¬ (isPrivate172 a = true ∧ isPrivate172 b = true)) ∧
    ((compareAddrs a b = .eq ↔ a = b)
      ↔ ¬ (a = b ∧ (a.isLoopback = true ∨ isPrivate172 a = true))) ∧
    (∀ o, compareAddrs a b = o → compareAddrs b c = o → compareAddrs a c = o) ∧
    ((∀ ifaces' : List IpAddr, ifaces'.Perm ifaces → instAddr ifaces' = instAddr ifaces)
      ↔ OneChoice (addrs ifaces)) := by
  refine ⟨compareAddrs_swap_iff a b, ?_, fun o => compareAddrs_trans, ?_⟩
  · rw [compareAddrs_eq_iff, ordinary_iff]
    cases a.isLoopback <;> cases isPrivate172 a <;> simp
  · rw [forall_perm_addrs_iff, head?_sortBy_perm_iff, oneChoice_iff]

/-- The address of a bridge of containers. -/
def docker0 : IpAddr := .v4 ⟨172, 17, 0, 1⟩

/-- The address of another one. -/
def bridge1 : IpAddr := .v4 ⟨172, 18, 0, 1⟩

example : ¬ OneChoice (addrs [docker0, bridge1]) := by decide

example : OneChoice (addrs [docker0, bridge1, .v4 ⟨192, 168, 1, 7⟩]) := by decide

/-- Two bridges that both pass the filter are each greater than the other, and that one is
chosen which is listed first. -/
theorem bridge_order_decides :
    passesFilter docker0 = true ∧ passesFilter bridge1 = true ∧
    compareAddrs docker0 bridge1 ≠ (compareAddrs bridge1 docker0).swap ∧
    compareAddrs docker0 docker0 ≠ .eq ∧
    instAddr [docker0, bridge1] = some docker0 ∧ instAddr [bridge1, docker0] = some bridge1 := by
  refine ⟨by decide, by decide, by decide, by decide, ?_, ?_⟩
  · exact head?_sortBy_cons (by decide)
  · exact head?_sortBy_cons (by decide)

end Skywalking
