import RangeLab.Proofs.Answers
import RangeLab.Proofs.Spelling
import RangeLab.Proofs.Table

/-!
# Looking things up

Guests are found through a table of their places, in which the last of several guests with one name
is found; networks are searched for from the first one on. In a lab neither order matters: names are
different, and so are the pairs of instance and segment that networks are known by. So each lookup
finds just what has the name (`lookups_exact`).
-/

namespace RangeLab

open Ipv4 (Block)

namespace Inventory

/-- The places of the guests, put into a table by name one after another. -/
def guestPlaces (inv : Inventory) : List (String × Nat) :=
  Table.ofEntries (inv.guests.zipIdx.map fun entry => (entry.1.name, entry.2))

/-- The place in the table is that of the guest, whatever names the guests have. -/
theorem guest?_eq_lookup (inv : Inventory) (name : String) :
    inv.guest? name = (inv.guestPlaces.lookup name).bind fun place => inv.guests[place]? := by
  have hplaced : inv.guests.reverse = inv.guests.zipIdx.reverse.map Prod.fst := by
    rw [List.map_reverse, List.zipIdx_map_fst]
  rw [guestPlaces, Table.lookup_ofEntries, guest?, List.findRev?_eq_find?_reverse, hplaced,
    List.findRev?_eq_find?_reverse, ← List.map_reverse, List.find?_map, List.find?_map,
    Option.map_map, Option.bind_map]
  simp only [Function.comp_def]
  cases h : inv.guests.zipIdx.reverse.find? fun entry => entry.1.name == name with
  | none => rfl
  | some entry =>
      have hmem := List.mem_reverse.mp (List.mem_of_find?_eq_some h)
      exact (List.mem_zipIdx_iff_getElem?.mp hmem).symm

/-- An answer lists machines that are in the scope of the query. -/
theorem sublist_of_resolve {inv : Inventory} {q : Query} {names : List String}
    (h : inv.resolve q = .ok names) : names.Sublist (inv.machineNames q.onlyInstances) := by
  cases hf : q.filters inv with
  | error e => cases h.symm.trans (resolve_of_filters_eq_error hf)
  | ok f =>
      have hanswer := selects_of_filters hf
      rw [Selects, h] at hanswer
      split at hanswer
      · cases hanswer
      · obtain rfl := Except.ok.inj hanswer
        exact selectedNames_sublist

theorem machineNames_true (inv : Inventory) :
    inv.machineNames true = inv.guests.map Guest.name := by
  simp [machineNames, machines, Machine.name]

namespace MadeFrom

variable {s : Scenario} {root : Block} {networks : List (Slug × List Slug)} {inv : Inventory}

theorem guest?_eq_some (m : MadeFrom s root networks inv) {name : String} {g : Guest} :
    inv.guest? name = some g ↔ g ∈ inv.guests ∧ g.name = name :=
  findRev?_key_eq_some (inv.machineNames_true ▸ m.nodup_machineNames true)

theorem network?_eq_some (m : MadeFrom s root networks inv) {name : String} {n : Network} :
    inv.network? name = some n ↔ n ∈ inv.networks ∧ n.name = name :=
  find?_key_eq_some m.nodup_network_names

/-- A network is known by its instance and its segment, as its name is made of these. -/
theorem nodup_network_keys (m : MadeFrom s root networks inv) :
    (inv.networks.map fun n => (n.instanceNumber, n.base)).Nodup := by
  have hnames : inv.networks.map Network.name
      = (inv.networks.map fun n => (n.instanceNumber, n.base)).map
          fun key => inv.id.networkName key.1 key.2 := by
    rw [List.map_map]
    exact List.map_congr_left fun n hn => m.name_of_network hn
  exact List.Nodup.of_map _ (hnames ▸ m.nodup_network_names)

theorem networkOf?_eq_some (m : MadeFrom s root networks inv) {i : UInt32} {base : String}
    {n : Network} : inv.networkOf? i base = some n ↔
      n ∈ inv.networks ∧ n.instanceNumber = i ∧ Slug.ofText? base = some n.base := by
  rw [networkOf?, Option.bind_eq_bind, Option.bind_eq_some_iff]
  have hfind : ∀ slug, (inv.networks.find? fun network =>
      network.instanceNumber == i && network.base == slug) = some n ↔
        n ∈ inv.networks ∧ (n.instanceNumber, n.base) = (i, slug) :=
    fun slug => find?_key_eq_some (k := (i, slug)) m.nodup_network_keys
  simp only [hfind, Prod.mk.injEq]
  constructor
  · rintro ⟨slug, hslug, hn, hinstance, rfl⟩
    exact ⟨hn, hinstance, hslug⟩
  · rintro ⟨hn, hinstance, hslug⟩
    exact ⟨n.base, hslug, hn, hinstance, rfl⟩

/-- A name in an answer without services is found, as what it is read as. -/
theorem guest?_of_mem_answer (m : MadeFrom s root networks inv) {q : Query} {names : List String}
    (hscope : q.onlyInstances = true) (h : inv.resolve q = .ok names) {name : String}
    (hname : name ∈ names) :
    ∃ g n, inv.guest? name = some g ∧ MachineName.read name = .ok n
      ∧ n.instanceNumber = g.instanceNumber ∧ n.base = g.role.name ∧ n.copyNumber = g.copy := by
  have hmem := (sublist_of_resolve h).subset hname
  rw [hscope, machineNames_true] at hmem
  obtain ⟨g, hg, rfl⟩ := List.mem_map.mp hmem
  obtain ⟨n, hn, hfields⟩ := m.parse?_guest hg
  exact ⟨g, n, m.guest?_eq_some.mpr ⟨hg, rfl⟩, MachineName.read_eq_ok.mpr hn, hfields⟩

end MadeFrom

/-- A guest is found by its name, a network by its name or by its instance and any text for its
segment, and nothing else is found. A guest is found at the place that the table has for its name.
What a query without services answers are names of guests, read as the guests that they find. -/
theorem lookups_exact {s : Scenario} {inv : Inventory} (h : compile s = .ok inv) :
    (∀ name g, inv.guest? name = some g ↔ g ∈ inv.guests ∧ g.name = name)
    ∧ (∀ name, inv.guest? name
      = (inv.guestPlaces.lookup name).bind fun place => inv.guests[place]?)
    ∧ (∀ name n, inv.network? name = some n ↔ n ∈ inv.networks ∧ n.name = name)
    ∧ (∀ i base n, inv.networkOf? i base = some n ↔
      n ∈ inv.networks ∧ n.instanceNumber = i ∧ Slug.ofText? base = some n.base)
    ∧ ∀ q names, q.onlyInstances = true → inv.resolve q = .ok names → ∀ name ∈ names,
      ∃ g n, inv.guest? name = some g ∧ MachineName.read name = .ok n
        ∧ n.instanceNumber = g.instanceNumber ∧ n.base = g.role.name ∧ n.copyNumber = g.copy := by
  obtain ⟨root, networks, m⟩ := compile_eq_ok.mp h
  exact ⟨fun _ _ => m.guest?_eq_some, inv.guest?_eq_lookup, fun _ _ => m.network?_eq_some,
    fun _ _ _ => m.networkOf?_eq_some,
    fun _ _ hscope hanswer _ hname => m.guest?_of_mem_answer hscope hanswer hname⟩

/-- The last name that a query selects is that of the third web server of the second instance; a
network of this instance is found by its segment in another spelling. -/
theorem lookups_exact_small : ∃ inv, compile .small = .ok inv
    ∧ inv.resolve .small = .ok ["uni1-lab-2-web-1", "uni1-lab-2-web-3"]
    ∧ (∃ g, inv.guest? "uni1-lab-2-web-3" = some g ∧ g ∈ inv.guests ∧ g.instanceNumber = 2
      ∧ g.role.name.text = "web" ∧ g.copy = 3)
    ∧ ∃ n, inv.networkOf? 2 "L A N" = some n ∧ n ∈ inv.networks ∧ n.instanceNumber = 2
      ∧ inv.network? "uni1-lab-2-lan" = some n := by
  have hrun : (compile .small).map (fun inv =>
        (inv.resolve .small, (inv.networkOf? 2 "L A N").map Network.name))
      = .ok (.ok ["uni1-lab-2-web-1", "uni1-lab-2-web-3"], some "uni1-lab-2-lan") := by
    decide +kernel
  obtain ⟨inv, h, heq⟩ := Attempt.map_eq_ok.mp hrun
  obtain ⟨hanswer, hnetwork⟩ := Prod.mk.inj heq
  obtain ⟨n, hn, hname⟩ := Option.map_eq_some_iff.mp hnetwork
  obtain ⟨hguest, -, hnamed, hof, hanswers⟩ := lookups_exact h
  obtain ⟨g, r, hfound, hread, hinstance, hbase, hcopy⟩ := hanswers .small _ rfl hanswer
    "uni1-lab-2-web-3" (List.mem_cons_of_mem _ (List.mem_singleton_self _))
  obtain ⟨hmem, hinst, -⟩ := (hof 2 "L A N" n).mp hn
  have hparts : (MachineName.read "uni1-lab-2-web-3").map (fun r =>
      (r.instanceNumber, r.base.text, r.copyNumber)) = .ok (2, "web", 3) := by decide +kernel
  rw [hread] at hparts
  simp only [Except.map, Except.ok.injEq, Prod.mk.injEq, hinstance, hbase, hcopy] at hparts
  obtain ⟨hg, -⟩ := (hguest _ g).mp hfound
  exact ⟨inv, h, hanswer, ⟨g, hfound, hg, hparts⟩, n, hn, hmem, hinst,
    (hnamed _ n).mpr ⟨hmem, hname⟩⟩

end Inventory

end RangeLab
