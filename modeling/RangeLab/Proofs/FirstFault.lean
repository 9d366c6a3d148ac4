import RangeLab.Proofs.Topology

/-!
# Which fault declarations are refused for

Declarations can break several rules at once, and are refused for one fault only. Which one it is
depends on the declarations alone (`Topology.FirstFault`): what is wrong with roles comes before
what is wrong with networks, a name that stands for two of them before what is wrong with one of
them, and of several faults of one kind the one that is met first in the order of declaration.

The rules are checked one after the other, each of them over a whole list, so the fault is found
check by check: a check that fails names the earliest repetition (`IsFirstRepeat`) or the first
offender (`IsFirst`), and those before it have passed (`Topology.check_eq_error_iff`). It makes no
difference that the segments could be made while the networks are being checked
(`Topology.ofDeclarations_eq_assemble`).
-/

namespace RangeLab

/-! ## The first of several -/

section

variable {α : Type}

/-- The first element of the list with the property. -/
def IsFirst (p : α → Prop) (l : List α) (a : α) : Prop :=
  ∃ before after, l = before ++ a :: after ∧ (∀ b ∈ before, ¬p b) ∧ p a

/-- Of all places in the list where an element stands that stood before, the first has this one. -/
def IsFirstRepeat (l : List α) (a : α) : Prop :=
  ∃ before after, l = before ++ a :: after ∧ before.Nodup ∧ a ∈ before

/-- The element was seen or stands among those before it, and it is the first such one: those before
it are new and differ from each other. -/
def RepeatsAfter (seen before : List α) (a : α) : Prop :=
  before.Nodup ∧ (∀ b ∈ before, b ∉ seen) ∧ (a ∈ before ∨ a ∈ seen)

theorem repeatsAfter_nil_iff {seen : List α} {a : α} : RepeatsAfter seen [] a ↔ a ∈ seen := by
  simp [RepeatsAfter]

theorem repeatsAfter_unseen_iff {before : List α} {a : α} :
    RepeatsAfter [] before a ↔ before.Nodup ∧ a ∈ before := by
  simp [RepeatsAfter]

/-- The head of a list is among those seen for the rest, and before all of the rest. -/
theorem repeatsAfter_cons_iff {seen before : List α} {x a : α} (hx : x ∉ seen) :
    RepeatsAfter (x :: seen) before a ↔ RepeatsAfter seen (x :: before) a := by
  have hunseen : (∀ b ∈ before, b ∉ x :: seen) ↔ x ∉ before ∧ ∀ b ∈ before, b ∉ seen := by
    simp only [List.mem_cons, not_or, forall_and, List.forall_mem_ne']
  have hagain : (a ∈ before ∨ a ∈ x :: seen) ↔ (a ∈ x :: before ∨ a ∈ seen) := by
    simp only [List.mem_cons, or_assoc, or_left_comm]
  rw [RepeatsAfter, RepeatsAfter, hunseen, hagain, List.nodup_cons, List.forall_mem_cons]
  tauto

theorem firstRepeat?_eq_some [DecidableEq α] {seen l : List α} {a : α} :
    firstRepeat? seen l = some a ↔
      ∃ before after, l = before ++ a :: after ∧ RepeatsAfter seen before a := by
  induction l generalizing seen with
  | nil => simp [firstRepeat?]
  | cons x l ih =>
      rw [firstRepeat?, exists_split_cons_iff, repeatsAfter_nil_iff]
      by_cases hx : x ∈ seen
      · have hrest : ¬∃ before after,
            l = before ++ a :: after ∧ RepeatsAfter seen (x :: before) a := by
          rintro ⟨before, -, -, -, hunseen, -⟩
          exact hunseen x List.mem_cons_self hx
        rw [if_pos hx, Option.some.injEq, or_iff_left hrest]
        exact ⟨fun heq => ⟨heq, heq ▸ hx⟩, And.left⟩
      · have hhead : ¬(x = a ∧ a ∈ seen) := by
          rintro ⟨rfl, ha⟩
          exact hx ha
        rw [if_neg hx, ih, or_iff_right hhead]
        simp only [repeatsAfter_cons_iff hx]

theorem firstRepeat?_nil_eq_some [DecidableEq α] {l : List α} {a : α} :
    firstRepeat? [] l = some a ↔ IsFirstRepeat l a := by
  simp only [firstRepeat?_eq_some, repeatsAfter_unseen_iff, IsFirstRepeat]

theorem find?_eq_some_iff_isFirst {p : α → Bool} {l : List α} {a : α} :
    l.find? p = some a ↔ IsFirst (fun b => p b = true) l a := by
  rw [List.find?_eq_some_iff_append]
  constructor
  · rintro ⟨ha, before, after, hl, hbefore⟩
    exact ⟨before, after, hl, fun b hb => by simpa using hbefore b hb, ha⟩
  · rintro ⟨before, after, hl, hbefore, ha⟩
    exact ⟨ha, before, after, hl, fun b hb => by simpa using hbefore b hb⟩

/-- A traversal by a check fails at the first element that the check refuses. -/
theorem forM_eq_error_iff_isFirst {ε : Type} {f : α → Except ε Unit} {bad : α → Prop}
    (h : ∀ a, f a = .ok () ↔ ¬bad a) {l : List α} {e : ε} :
    l.forM f = .error e ↔ ∃ a, IsFirst bad l a ∧ f a = .error e := by
  have hbad : ∀ a, f a = .error e → bad a := fun a ha => by
    by_contra hgood
    rw [(h a).mpr hgood] at ha
    cases ha
  rw [Attempt.forM_eq_error]
  constructor
  · rintro ⟨a, before, after, hl, hbefore, ha⟩
    exact ⟨a, ⟨before, after, hl, fun b hb => (h b).mp (hbefore b hb), hbad a ha⟩, ha⟩
  · rintro ⟨a, ⟨before, after, hl, hbefore, -⟩, ha⟩
    exact ⟨a, before, after, hl, fun b hb => (h b).mpr (hbefore b hb), ha⟩

end

/-! ## The fault of one check -/

theorem checkUnique_eq_error {kind : NameKind} {names : List Slug} {fault : Fault} :
    checkUnique kind names = .error fault ↔
      ∃ name, IsFirstRepeat names name ∧ fault = .duplicateName kind name.text := by
  simp only [← firstRepeat?_nil_eq_some]
  unfold checkUnique
  cases firstRepeat? [] names with
  | none => simp
  | some name => simp [eq_comm]

/-- The role has the name of a service or more than 251 copies. -/
def Role.IsRefused (role : Role) : Prop :=
  (∃ service : Service, service.id = role.name.text) ∨ 251 < role.copies

/-- What is wrong with a role by itself. Of a service name and too many copies it is the name. -/
inductive Role.HasFault (role : Role) : Fault → Prop
  | service {service : Service} :
      service.id = role.name.text → role.HasFault (.duplicateName .service role.name.text)
  | copies :
      (∀ service : Service, service.id ≠ role.name.text) → 251 < role.copies →
        role.HasFault (.badSetting (.tooManyCopies role.name role.copies 251))

/-- A member of the network is no role, or a role is its member twice. -/
def HasBadMembers (roles : List Slug) (network : Slug × List Slug) : Prop :=
  (∃ member ∈ network.2, member ∉ roles) ∨ ¬network.2.Nodup

/-- What is wrong with the members of a network. The members that are no roles come first. -/
inductive MembersFault (roles : List Slug) (network : Slug × List Slug) : Fault → Prop
  | undeclared {member : Slug} :
      IsFirst (fun member => member ∉ roles) network.2 member →
        MembersFault roles network (.undeclaredMember network.1 member)
  | repeated {member : Slug} :
      (∀ member ∈ network.2, member ∈ roles) → IsFirstRepeat network.2 member →
        MembersFault roles network
          (.duplicateName .member (network.1.text ++ "/" ++ member.text))

namespace Topology

theorem checkRole_eq_ok_iff_not {role : Role} : checkRole role = .ok () ↔ ¬role.IsRefused := by
  rw [checkRole_eq_ok, Role.IsRefused, not_or, not_exists, UInt32.not_lt]
  exact Iff.rfl

theorem checkRole_eq_error_iff {role : Role} {fault : Fault} :
    checkRole role = .error fault ↔ role.HasFault fault := by
  rw [checkRole, Attempt.check_bind_eq_error]
  constructor
  · rintro (h | ⟨hname, h⟩)
    · unfold checkNotService at h
      split at h
      · rename_i service hservice
        have hid := Service.ofId?_eq_some.mp hservice
        cases h
        exact hid ▸ .service hid
      · cases h
    · unfold checkCopies at h
      split at h
      · rename_i hcopies
        cases h
        exact .copies (checkNotService_eq_ok.mp hname) hcopies
      · cases h
  · rintro (hid | ⟨hname, hcopies⟩)
    · refine .inl ?_
      rw [checkNotService, Service.ofId?_eq_some.mpr hid]
      exact hid ▸ rfl
    · refine .inr ⟨checkNotService_eq_ok.mpr hname, ?_⟩
      exact if_pos hcopies

theorem checkMembers_eq_ok_iff_not {roles : List Slug} {network : Slug × List Slug} :
    checkMembers roles network = .ok () ↔ ¬HasBadMembers roles network := by
  rw [checkMembers_eq_ok, HasBadMembers]
  simp

theorem checkMembers_eq_error_iff {roles : List Slug} {network : Slug × List Slug} {fault : Fault} :
    checkMembers roles network = .error fault ↔ MembersFault roles network fault := by
  have hfirst : ∀ member, (network.2.find? fun member => !roles.contains member) = some member ↔
      IsFirst (fun member => member ∉ roles) network.2 member := by
    intro member
    rw [find?_eq_some_iff_isFirst]
    simp
  rw [checkMembers, Attempt.check_bind_eq_error]
  constructor
  · rintro (h | ⟨hdeclared, h⟩)
    · unfold checkDeclared at h
      split at h
      · rename_i member hmember
        cases h
        exact .undeclared ((hfirst member).mp hmember)
      · cases h
    · unfold checkMembersUnique at h
      split at h
      · rename_i member hmember
        cases h
        exact .repeated (checkDeclared_eq_ok.mp hdeclared) (firstRepeat?_nil_eq_some.mp hmember)
      · cases h
  · rintro (hmember | ⟨hdeclared, hmember⟩)
    · refine .inl ?_
      rw [checkDeclared, (hfirst _).mpr hmember]
    · refine .inr ⟨checkDeclared_eq_ok.mpr hdeclared, ?_⟩
      rw [checkMembersUnique, firstRepeat?_nil_eq_some.mpr hmember]

/-! ## The fault of declarations -/

variable {roles : List Role} {networks : List (Slug × List Slug)}

/-- The fault that declarations of roles, and of networks by name and members, are refused for. -/
inductive FirstFault (roles : List Role) (networks : List (Slug × List Slug)) : Fault → Prop
  | roleRepeated {name : Slug} :
      IsFirstRepeat (roles.map Role.name) name →
        FirstFault roles networks (.duplicateName .guest name.text)
  | role {role : Role} {fault : Fault} :
      (roles.map Role.name).Nodup →
      IsFirst Role.IsRefused roles role → role.HasFault fault →
        FirstFault roles networks fault
  | networkRepeated {name : Slug} :
      (roles.map Role.name).Nodup → (∀ role ∈ roles, ¬role.IsRefused) →
      IsFirstRepeat (networks.map Prod.fst) name →
        FirstFault roles networks (.duplicateName .network name.text)
  | members {network : Slug × List Slug} {fault : Fault} :
      (roles.map Role.name).Nodup → (∀ role ∈ roles, ¬role.IsRefused) →
      (networks.map Prod.fst).Nodup →
      IsFirst (HasBadMembers (roles.map Role.name)) networks network →
      MembersFault (roles.map Role.name) network fault →
        FirstFault roles networks fault

theorem check_eq_error_iff {fault : Fault} :
    check roles networks = .error fault ↔ FirstFault roles networks fault := by
  have hroles : roles.forM checkRole = .ok () ↔ ∀ role ∈ roles, ¬role.IsRefused := by
    simp only [Attempt.forM_eq_ok, checkRole_eq_ok_iff_not]
  rw [check]
  simp only [Attempt.check_bind_eq_error, checkUnique_eq_error, checkUnique_eq_ok, hroles,
    forM_eq_error_iff_isFirst fun role => checkRole_eq_ok_iff_not,
    forM_eq_error_iff_isFirst fun network => checkMembers_eq_ok_iff_not,
    checkRole_eq_error_iff, checkMembers_eq_error_iff]
  constructor
  · rintro (⟨name, hname, rfl⟩ | ⟨hunique, ⟨role, hfirst, hfault⟩ | ⟨hgood,
      ⟨name, hname, rfl⟩ | ⟨hnetworks, network, hfirst, hfault⟩⟩⟩)
    · exact .roleRepeated hname
    · exact .role hunique hfirst hfault
    · exact .networkRepeated hunique hgood hname
    · exact .members hunique hgood hnetworks hfirst hfault
  · intro h
    cases h with
    | roleRepeated hname => exact .inl ⟨_, hname, rfl⟩
    | role hunique hfirst hfault => exact .inr ⟨hunique, .inl ⟨_, hfirst, hfault⟩⟩
    | networkRepeated hunique hgood hname =>
        exact .inr ⟨hunique, .inr ⟨hgood, .inl ⟨_, hname, rfl⟩⟩⟩
    | members hunique hgood hnetworks hfirst hfault =>
        exact .inr ⟨hunique, .inr ⟨hgood, .inr ⟨hnetworks, _, hfirst, hfault⟩⟩⟩

/-! ## Checking while making -/

/-- The segments so far and one more, if the members of its network are as they should be. -/
def addSegment (roles : List Role) (segments : List Segment) (network : Slug × List Slug) :
    Except Fault (List Segment) := do
  checkMembers (roles.map Role.name) network
  return segments ++ [segmentAt roles segments.length network]

/-- The topology of declarations, with each segment made as soon as its network is checked. -/
def assemble (roles : List Role) (networks : List (Slug × List Slug)) : Except Fault Topology := do
  checkUnique .guest (roles.map Role.name)
  roles.forM checkRole
  checkUnique .network (networks.map Prod.fst)
  let segments ← networks.foldlM (addSegment roles) []
  return { roles, segments }

theorem foldlM_addSegment (segments : List Segment) :
    networks.foldlM (addSegment roles) segments
      = (networks.forM (checkMembers (roles.map Role.name))).map fun _ =>
        segments ++ (networks.zipIdx segments.length).map fun entry =>
          segmentAt roles entry.2 entry.1 := by
  induction networks generalizing segments with
  | nil => simp [pure, Except.pure, Except.map]
  | cons network networks ih =>
      rw [List.foldlM_cons, List.forM_eq_forM, List.forM_cons, addSegment]
      cases checkMembers (roles.map Role.name) network with
      | error fault => rfl
      | ok _ =>
          show List.foldlM _ (segments ++ [segmentAt roles segments.length network]) networks = _
          rw [ih, List.length_append, List.zipIdx_cons, List.map_cons, List.append_assoc]
          rfl

/-- No segment can fail to be made, so it does not matter when the segments are made. -/
theorem ofDeclarations_eq_assemble : ofDeclarations roles networks = assemble roles networks := by
  have hsegments : networks.mapIdx (segmentAt roles)
      = (networks.zipIdx 0).map fun entry => segmentAt roles entry.2 entry.1 :=
    List.mapIdx_eq_zipIdx_map
  rw [ofDeclarations, check, assemble, foldlM_addSegment]
  simp only [bind_assoc]
  cases networks.forM (checkMembers (roles.map Role.name)) with
  | error fault => rfl
  | ok _ =>
      rw [List.length_nil, List.nil_append, ← hsegments]
      rfl

/-! ## The fault that is reported -/

theorem ofDeclarations_eq_error_iff {fault : Fault} :
    ofDeclarations roles networks = .error fault ↔ FirstFault roles networks fault := by
  rw [ofDeclarations, Attempt.check_bind_eq_error, check_eq_error_iff]
  refine or_iff_left ?_
  rintro ⟨-, h⟩
  cases h

/-- Declarations are refused iff they break some rule, and then for the first of their faults: the
earliest repetition among the names of roles; else what is wrong with the first role that has the
name of a service or too many copies; else the earliest repetition among the names of networks;
else what is wrong with the members of the first network that has bad ones. The same holds if each
segment is made as soon as its network is checked. -/
theorem refused_for_first_fault (roles : List Role) (networks : List (Slug × List Slug)) :
    ((∃ fault, ofDeclarations roles networks = .error fault) ↔ ¬Admissible roles networks)
    ∧ (∀ fault, ofDeclarations roles networks = .error fault ↔ FirstFault roles networks fault)
    ∧ ofDeclarations roles networks = assemble roles networks := by
  refine ⟨?_, fun fault => ofDeclarations_eq_error_iff, ofDeclarations_eq_assemble⟩
  rw [Attempt.exists_error_iff]
  refine not_congr ⟨fun ⟨_, h⟩ => (ofDeclarations_eq_ok.mp h).1, fun h => ?_⟩
  exact ⟨expand roles networks, ofDeclarations_eq_ok.mpr ⟨h, rfl⟩⟩

/-- The role has too many copies as well, and the member of the network is no role. -/
example :
    ofDeclarations [{ name := ⟨"elastic", by decide⟩, copies := 300 }]
      [(⟨"lan", by decide⟩, [⟨"ghost", by decide⟩])]
      = .error (.duplicateName .service "elastic") := by
  rfl

end Topology

end RangeLab
