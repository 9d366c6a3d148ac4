import RangeLab.Proofs.Documents
import RangeLab.Proofs.Items
import RangeLab.Proofs.Json.Reader

/-!
# What an environment asks

An environment asks a query if its variables hold the lists of the query, in any of their texts, and
ask for all machines just if the query does not leave out those of services (`Asks`). The query that
a run makes of its environment is the one that the environment asks, and every query is asked by
some environment as long as its names can be items. The one query that restricts nothing is not
answered: a run then prints the whole inventory (`queries_asked_and_answered`).
-/

namespace RangeLab.CommandLine

open Numeral (Spells)

variable {env : Environment} {name : String}

/-! ## Variables -/

/-- The variable holds the list: one of its texts, or the variable is not set and there are no
items. -/
def Holds (env : Environment) (name : String) (its : List (List Char)) : Prop :=
  match env name with
  | some text => IsListText its text
  | none => its = []

theorem itemsOf_eq_iff {its : List (List Char)} :
    itemsOf env name = its ↔ (∀ item ∈ its, IsItem item) ∧ Holds env name its := by
  rw [itemsOf, Holds]
  cases env name with
  | some text => exact items_eq_iff
  | none => exact ⟨fun h => ⟨h ▸ nofun, h.symm⟩, fun h => h.2.symm⟩

theorem numbersOf_eq_ok {ns : List UInt32} :
    numbersOf env name = .ok ns ↔ List.Forall₂ Spells (itemsOf env name) ns := by
  rw [numbersOf, Attempt.mapM_eq_ok]
  simp only [Attempt.mapError_eq_ok, Numeral.count_eq_ok]

theorem textsOf_eq_iff {texts : List String} :
    textsOf env name = texts ↔ itemsOf env name = texts.map String.toList := by
  rw [textsOf]
  constructor
  · rintro rfl
    simp [Function.comp_def]
  · intro h
    simp [h, Function.comp_def]

/-- The variable is set to one of the words by which all machines are asked for. -/
def AsksForAll (env : Environment) : Prop :=
  ∃ value, env "RANGE_ALL_MACHINES" = some value ∧ value ∈ ["1", "true", "yes"]

theorem asksForAll_iff : asksForAll env = true ↔ AsksForAll env := by
  unfold asksForAll AsksForAll
  cases env "RANGE_ALL_MACHINES" with
  | none => simp
  | some value => simp [or_assoc]

/-! ## Queries -/

/-- The environment asks the query. -/
structure Asks (env : Environment) (q : Query) : Prop where
  instances : ∃ its, Holds env "RANGE_INSTANCES" its ∧ List.Forall₂ Spells its q.instances
  guests : Holds env "RANGE_GUESTS" (q.guests.map String.toList)
  copies : ∃ its, Holds env "RANGE_COPIES" its ∧ List.Forall₂ Spells its q.copies
  exclude : Holds env "RANGE_EXCLUDE" (q.exclude.map String.toList)
  all : AsksForAll env ↔ q.onlyInstances = false

/-- The query is what its variables are read as. -/
structure IsReadFrom (q : Query) (env : Environment) : Prop where
  instances : numbersOf env "RANGE_INSTANCES" = .ok q.instances
  guests : textsOf env "RANGE_GUESTS" = q.guests
  copies : numbersOf env "RANGE_COPIES" = .ok q.copies
  exclude : textsOf env "RANGE_EXCLUDE" = q.exclude
  all : asksForAll env = !q.onlyInstances

theorem isBlank_of_isDigit {c : Char} (h : c.isDigit = true) : Text.isBlank c = false := by
  obtain ⟨d, hd, rfl⟩ := Numeral.exists_digitChar_of_isDigit h
  revert d
  decide

/-- A count has neither commas nor white space in it. -/
theorem isItem_of_spells {cs : List Char} {n : UInt32} (h : Spells cs n) : IsItem cs := by
  obtain ⟨run, hcs, hrun, -⟩ := h
  have hne : run ≠ [] := by
    rintro rfl
    cases hrun
  have hchar : ∀ c ∈ cs, c = '+' ∨ c.isDigit = true := by
    rcases hcs with rfl | rfl
    · exact fun c hc => .inr (Numeral.isDigit_of_mem_run hrun hc)
    · exact fun c hc => (List.mem_cons.mp hc).imp_right (Numeral.isDigit_of_mem_run hrun)
  have hblank : ∀ c ∈ cs, Text.isBlank c = false := by
    intro c hc
    rcases hchar c hc with rfl | hdigit
    · decide
    · exact isBlank_of_isDigit hdigit
  refine ⟨?_, fun hcomma => absurd (hchar ',' hcomma) (by decide), ?_, ?_⟩
  · rcases hcs with rfl | rfl
    · exact hne
    · exact List.cons_ne_nil '+' run
  · exact fun c hc => hblank c (List.mem_of_head? hc)
  · exact fun c hc => hblank c (List.mem_of_getLast? hc)

/-- Numbers are read from the texts of the lists of their spellings. -/
theorem numbersOf_eq_ok_iff_holds {ns : List UInt32} :
    numbersOf env name = .ok ns ↔ ∃ its, Holds env name its ∧ List.Forall₂ Spells its ns := by
  rw [numbersOf_eq_ok]
  constructor
  · exact fun h => ⟨itemsOf env name, (itemsOf_eq_iff.mp rfl).2, h⟩
  · rintro ⟨its, hholds, hspells⟩
    have hitem : ∀ item ∈ its, IsItem item := fun item hitem =>
      have ⟨n, _, h⟩ := exists_right_of_forall₂ hspells hitem
      isItem_of_spells h
    rwa [itemsOf_eq_iff.mpr ⟨hitem, hholds⟩]

theorem textsOf_eq_iff_holds {texts : List String} :
    textsOf env name = texts
      ↔ (∀ text ∈ texts, IsItem text.toList) ∧ Holds env name (texts.map String.toList) := by
  rw [textsOf_eq_iff, itemsOf_eq_iff, List.forall_mem_map]

/-- An environment is read as the query that it asks. -/
theorem isReadFrom_iff {q : Query} :
    IsReadFrom q env ↔ (∀ name ∈ q.guests ++ q.exclude, IsItem name.toList) ∧ Asks env q := by
  have hall : (asksForAll env = !q.onlyInstances) ↔ (AsksForAll env ↔ q.onlyInstances = false) := by
    rw [← asksForAll_iff, Bool.eq_iff_iff, Bool.not_eq_true']
  rw [List.forall_mem_append]
  constructor
  · rintro ⟨hinstances, hguests, hcopies, hexclude, h⟩
    obtain ⟨hguestItems, hguests⟩ := textsOf_eq_iff_holds.mp hguests
    obtain ⟨hexcludeItems, hexclude⟩ := textsOf_eq_iff_holds.mp hexclude
    exact ⟨⟨hguestItems, hexcludeItems⟩, numbersOf_eq_ok_iff_holds.mp hinstances, hguests,
      numbersOf_eq_ok_iff_holds.mp hcopies, hexclude, hall.mp h⟩
  · rintro ⟨⟨hguestItems, hexcludeItems⟩, hinstances, hguests, hcopies, hexclude, h⟩
    exact ⟨numbersOf_eq_ok_iff_holds.mpr hinstances,
      textsOf_eq_iff_holds.mpr ⟨hguestItems, hguests⟩, numbersOf_eq_ok_iff_holds.mpr hcopies,
      textsOf_eq_iff_holds.mpr ⟨hexcludeItems, hexclude⟩, hall.mpr h⟩

/-- A query restricts something iff it is not the one without filters. -/
theorem restricts_iff {q : Query} :
    (!q.onlyInstances || !q.instances.isEmpty || !q.guests.isEmpty || !q.copies.isEmpty
      || !q.exclude.isEmpty) = true ↔ q ≠ {} := by
  obtain ⟨instances, guests, copies, onlyInstances, exclude⟩ := q
  cases onlyInstances with
  | false => simp
  | true =>
      simp only [Query.mk.injEq, Bool.not_true, Bool.false_or, Bool.or_eq_true, Bool.not_eq_true',
        List.isEmpty_eq_false_iff, ne_eq, true_and]
      tauto

theorem queryOf_of_isReadFrom {q : Query} (h : IsReadFrom q env) :
    queryOf env = .ok (if q = {} then none else some q) := by
  rw [queryOf, h.instances, h.guests, h.copies, h.exclude, h.all]
  refine (apply_ite Except.ok _ _ _).symm.trans (congrArg Except.ok ?_)
  by_cases hq : q = {}
  · rw [if_neg fun hrestricts => restricts_iff.mp hrestricts hq, if_pos hq]
  · rw [if_pos (restricts_iff.mpr hq), if_neg hq, Bool.not_not]

theorem queryOf_eq_ok {asked : Option Query} :
    queryOf env = .ok asked ↔ ∃ q, IsReadFrom q env ∧ asked = if q = {} then none else some q := by
  constructor
  · intro h
    obtain ⟨instances, hinstances, hrest⟩ := Attempt.bind_eq_ok.mp h
    obtain ⟨copies, hcopies, -⟩ := Attempt.bind_eq_ok.mp hrest
    have hread : IsReadFrom
        { instances, guests := textsOf env "RANGE_GUESTS", copies,
          onlyInstances := !asksForAll env, exclude := textsOf env "RANGE_EXCLUDE" } env :=
      ⟨hinstances, rfl, hcopies, rfl, (Bool.not_not _).symm⟩
    exact ⟨_, hread, Except.ok.inj (h.symm.trans (queryOf_of_isReadFrom hread))⟩
  · rintro ⟨q, hq, rfl⟩
    exact queryOf_of_isReadFrom hq

theorem requestOf_eq_ok {args : List String} {r : Request} :
    requestOf args env = .ok r ↔ args.head?.or (env "SCENARIO_PATH") = some r.scenarioPath
      ∧ r.editionPath = env "EDITION_PATH" ∧ queryOf env = .ok r.query := by
  rw [requestOf]
  cases args.head?.or (env "SCENARIO_PATH") with
  | none => exact ⟨nofun, nofun⟩
  | some path =>
      constructor
      · intro h
        obtain ⟨query, hquery, h⟩ := Attempt.bind_eq_ok.mp h
        obtain rfl := Attempt.pure_eq_ok.mp h
        exact ⟨rfl, rfl, hquery⟩
      · rintro ⟨hpath, hedition, hquery⟩
        obtain rfl := Option.some.inj hpath
        refine Attempt.bind_eq_ok.mpr ⟨r.query, hquery, ?_⟩
        rw [Attempt.pure_eq_ok, ← hedition]

/-! ## Environments for a query -/

/-- The value of a variable for a list. -/
def listed (its : List (List Char)) : Option String :=
  if its = [] then none else some (String.ofList ([','].intercalate its))

/-- The environment that asks the query in the plainest way. -/
def environmentFor (q : Query) : Environment
  | "RANGE_INSTANCES" => listed (q.instances.map fun n => Numeral.digits n.toNat)
  | "RANGE_GUESTS" => listed (q.guests.map String.toList)
  | "RANGE_COPIES" => listed (q.copies.map fun n => Numeral.digits n.toNat)
  | "RANGE_EXCLUDE" => listed (q.exclude.map String.toList)
  | "RANGE_ALL_MACHINES" => if q.onlyInstances then none else some "yes"
  | _ => none

theorem holds_of_eq_listed {its : List (List Char)} (h : env name = listed its) :
    Holds env name its := by
  rw [Holds, h, listed]
  by_cases hits : its = []
  · rw [if_pos hits]
    exact hits
  · rw [if_neg hits]
    exact isListText_intercalate hits

theorem asks_environmentFor (q : Query) : Asks (environmentFor q) q := by
  have hnumbers : ∀ ns : List UInt32,
      List.Forall₂ Spells (ns.map fun n => Numeral.digits n.toNat) ns := by
    intro ns
    rw [List.forall₂_map_left_iff, List.forall₂_same]
    exact fun n _ => Numeral.spells_digits n
  have hall : AsksForAll (environmentFor q) ↔ q.onlyInstances = false := by
    unfold AsksForAll environmentFor
    cases q.onlyInstances <;> simp
  exact ⟨⟨_, holds_of_eq_listed rfl, hnumbers _⟩, holds_of_eq_listed rfl,
    ⟨_, holds_of_eq_listed rfl, hnumbers _⟩, holds_of_eq_listed rfl, hall⟩

/-! ## Runs -/

/-- The environment has a filter: a list with a part that is not blank, or the word for all
machines. -/
def HasFilter (env : Environment) : Prop :=
  (∃ name ∈ ["RANGE_INSTANCES", "RANGE_GUESTS", "RANGE_COPIES", "RANGE_EXCLUDE"], ∃ text,
    env name = some text ∧ ∃ part ∈ text.toList.splitOn ',', ¬Text.AllBlank part)
  ∨ AsksForAll env

theorem itemsOf_ne_nil_iff : itemsOf env name ≠ [] ↔ ∃ text, env name = some text
    ∧ ∃ part ∈ text.toList.splitOn ',', ¬Text.AllBlank part := by
  rw [itemsOf, ne_eq, items_eq_nil_iff]
  cases env name with
  | none => simp [Text.AllBlank]
  | some text => simp

theorem itemsOf_eq_nil_of_numbersOf {ns : List UInt32} (h : numbersOf env name = .ok ns) :
    itemsOf env name = [] ↔ ns = [] := by
  rw [← List.length_eq_zero_iff, (numbersOf_eq_ok.mp h).length_eq, List.length_eq_zero_iff]

theorem itemsOf_eq_nil_of_textsOf {texts : List String} (h : textsOf env name = texts) :
    itemsOf env name = [] ↔ texts = [] := by
  rw [textsOf_eq_iff.mp h, List.map_eq_nil_iff]

/-- A filter is set iff the query has items in a list or does not leave out the services. -/
theorem hasFilter_iff {q : Query} (h : IsReadFrom q env) : HasFilter env ↔ q ≠ {} := by
  have hinstances := itemsOf_eq_nil_of_numbersOf h.instances
  have hguests := itemsOf_eq_nil_of_textsOf h.guests
  have hcopies := itemsOf_eq_nil_of_numbersOf h.copies
  have hexclude := itemsOf_eq_nil_of_textsOf h.exclude
  rw [← restricts_iff, HasFilter, or_comm, ← asksForAll_iff, h.all]
  simp [← itemsOf_ne_nil_iff, hinstances, hguests, hcopies, hexclude, or_assoc]

/-- A request has a query iff its environment has a filter. -/
theorem hasFilter_iff_query {args : List String} {r : Request} (h : requestOf args env = .ok r) :
    HasFilter env ↔ r.query ≠ none := by
  obtain ⟨q, hread, hasked⟩ := queryOf_eq_ok.mp (requestOf_eq_ok.mp h).2.2
  rw [hasFilter_iff hread, hasked]
  by_cases hq : q = {}
  · simp [hq]
  · simp [hq]

theorem load_eq_ok {α : Type} {files : Files} {path : String} {read : String → Option α} {a : α} :
    load files path read = .ok a ↔ ∃ text, files path = .ok text ∧ read text = some a := by
  rw [load, Attempt.bind_eq_ok]
  refine exists_congr fun text => ?_
  rw [Attempt.mapError_eq_ok]
  refine and_congr_right fun _ => ?_
  cases read text with
  | none => exact ⟨nofun, nofun⟩
  | some value => exact Attempt.pure_eq_ok.trans (Option.some.injEq _ _).symm.to_iff

/-- What is printed for an inventory: the names that the query resolves to, and the record of the
inventory if there is no query. -/
inductive IsDocument (inv : Inventory) : Option Query → String → Prop
  | record : IsDocument inv none inv.toRecord.toText
  | names {q : Query} {names : List String} :
      inv.resolve q = .ok names → IsDocument inv (some q) (Json.ofList .ofString names).pretty

theorem answer_eq_ok {files : Files} {r : Request} {document : String} :
    answer files r = .ok document ↔ ∃ s inv, scenarioOf files r = .ok s
      ∧ Inventory.compile s = .ok inv ∧ IsDocument inv r.query document := by
  rw [answer, Attempt.bind_eq_ok]
  refine exists_congr fun s => ?_
  rw [exists_and_left]
  refine and_congr_right fun _ => ?_
  rw [Attempt.bind_eq_ok]
  refine exists_congr fun inv => ?_
  rw [Attempt.mapError_eq_ok]
  refine and_congr_right fun _ => ?_
  cases r.query with
  | none =>
      rw [Attempt.pure_eq_ok]
      constructor
      · rintro rfl
        exact .record
      · intro h
        cases h with
        | record => rfl
  | some q =>
      rw [Attempt.bind_eq_ok]
      simp only [Attempt.mapError_eq_ok, Attempt.pure_eq_ok]
      constructor
      · rintro ⟨names, hnames, rfl⟩
        exact .names hnames
      · intro h
        cases h with
        | names hnames => exact ⟨_, hnames, rfl⟩

theorem run_of_answer {args : List String} {files : Files} {r : Request} {document : String}
    (hr : requestOf args env = .ok r) (hanswer : answer files r = .ok document) :
    run args env files = { exitCode := 0, output := document ++ "\n", report := [] } := by
  rw [run, Attempt.bind_eq_ok.mpr ⟨r, hr, hanswer⟩]

theorem exists_answer_of_exitCode {args : List String} {files : Files}
    (h : (run args env files).exitCode = 0) :
    ∃ r document, requestOf args env = .ok r ∧ answer files r = .ok document := by
  unfold run at h
  cases hrun : requestOf args env >>= answer files with
  | error failure =>
      rw [hrun] at h
      exact absurd h (show (1 : UInt32) ≠ 0 by decide)
  | ok document =>
      obtain ⟨r, hr, hanswer⟩ := Attempt.bind_eq_ok.mp hrun
      exact ⟨r, document, hr, hanswer⟩

/-- Nothing fails from the arguments to the inventory, nor does the query if there is one. -/
structure FailsNowhere (args : List String) (env : Environment) (files : Files) (r : Request)
    (s : Scenario) (inv : Inventory) : Prop where
  request : requestOf args env = .ok r
  scenario : scenarioOf files r = .ok s
  compile : Inventory.compile s = .ok inv
  resolve : ∀ q, r.query = some q → ∃ names, inv.resolve q = .ok names

theorem FailsNowhere.exists_document {args : List String} {files : Files} {r : Request}
    {s : Scenario} {inv : Inventory} (h : FailsNowhere args env files r s inv) :
    ∃ document, IsDocument inv r.query document
      ∧ run args env files = { exitCode := 0, output := document ++ "\n", report := [] } := by
  have hdocument : ∃ document, IsDocument inv r.query document := by
    cases hquery : r.query with
    | none => exact ⟨_, .record⟩
    | some q =>
        obtain ⟨names, hnames⟩ := h.resolve q hquery
        exact ⟨_, .names hnames⟩
  obtain ⟨document, hdocument⟩ := hdocument
  have hanswer := answer_eq_ok.mpr ⟨s, inv, h.scenario, h.compile, hdocument⟩
  exact ⟨document, hdocument, run_of_answer h.request hanswer⟩

theorem exitCode_run_eq_zero_iff {args : List String} {files : Files} :
    (run args env files).exitCode = 0 ↔ ∃ r s inv, FailsNowhere args env files r s inv := by
  constructor
  · intro h
    obtain ⟨r, document, hr, hanswer⟩ := exists_answer_of_exitCode h
    obtain ⟨s, inv, hs, hinv, hdocument⟩ := answer_eq_ok.mp hanswer
    refine ⟨r, s, inv, hr, hs, hinv, fun q hq => ?_⟩
    rw [hq] at hdocument
    cases hdocument with
    | names hnames => exact ⟨_, hnames⟩
  · rintro ⟨r, s, inv, h⟩
    obtain ⟨document, -, hrun⟩ := h.exists_document
    rw [hrun]

/-- The names of machines are a list and an inventory is an object, so neither is printed as the
other. -/
theorem pretty_ne_toText (names : List String) (record : InventoryRecord) :
    (Json.ofList .ofString names).pretty ≠ record.toText := by
  intro h
  have hread := congrArg Json.parse? h
  rw [InventoryRecord.toText, Json.pretty, Json.pretty, Json.parse?_render, Json.parse?_render]
    at hread
  cases hread

/-- A query that restricts something is what a run makes of an environment iff the names in it can
be items and the environment asks it, and there is such an environment for each. A run reports no
failure iff nothing fails, and then it prints the names that its query resolves to if its
environment has a filter, and the inventory if not. -/
theorem queries_asked_and_answered :
    (∀ args env path q, args.head?.or (env "SCENARIO_PATH") = some path →
      (requestOf args env
          = .ok { scenarioPath := path, editionPath := env "EDITION_PATH", query := some q }
        ↔ q ≠ {} ∧ (∀ name ∈ q.guests ++ q.exclude, IsItem name.toList) ∧ Asks env q))
    ∧ (∀ q, ∃ env, Asks env q)
    ∧ ∀ args env files,
        ((run args env files).exitCode = 0 ↔ ∃ r s inv, FailsNowhere args env files r s inv)
        ∧ ∀ r s inv, FailsNowhere args env files r s inv →
            (HasFilter env ↔ ∃ q names, r.query = some q ∧ inv.resolve q = .ok names
              ∧ (run args env files).output = (Json.ofList .ofString names).pretty ++ "\n")
            ∧ (¬HasFilter env ↔ (run args env files).output = inv.toRecord.toText ++ "\n") := by
  refine ⟨fun args env path q hpath => ?_, fun q => ⟨_, asks_environmentFor q⟩,
    fun args env files => ⟨exitCode_run_eq_zero_iff, fun r s inv h => ?_⟩⟩
  · rw [requestOf_eq_ok, queryOf_eq_ok, ← isReadFrom_iff]
    constructor
    · rintro ⟨-, -, q', hread, hasked⟩
      split at hasked
      · cases hasked
      · obtain rfl := Option.some.inj hasked
        exact ⟨‹_›, hread⟩
    · rintro ⟨hne, hread⟩
      exact ⟨hpath, rfl, q, hread, (if_neg hne).symm⟩
  · obtain ⟨document, hdocument, hrun⟩ := h.exists_document
    rw [hasFilter_iff_query h.request, hrun]
    cases hquery : r.query with
    | none =>
        rw [hquery] at hdocument
        cases hdocument with
        | record => simp
    | some q =>
        rw [hquery] at hdocument
        cases hdocument with
        | names hnames => simp [hnames, pretty_ne_toText]

/-- Lists with blank parts and with white space about their items, and a run that answers a query
made of such lists. -/
theorem queries_asked_and_answered_spaced :
    let env : Environment
      | "RANGE_INSTANCES" => some " 1,, 4294967295\t"
      | "RANGE_GUESTS" => some "web\u2003 , ,\u00a0victim"
      | "RANGE_ALL_MACHINES" => some "yes"
      | _ => none
    let q : Query :=
      { instances := [1, 4294967295], guests := ["web", "victim"], onlyInstances := false }
    let env' : Environment
      | "RANGE_EXCLUDE" => some " ,"
      | "RANGE_COPIES" => some "+02, "
      | _ => none
    let lab : Scenario :=
      { institution := "uni", lab := "lab", instances := 1,
        roles := [{ name := "web", copies := 2 }] }
    let files : Files := fun _ => .ok lab.toJson.compact
    requestOf ["lab.json"] env
        = .ok { scenarioPath := "lab.json", editionPath := none, query := some q }
      ∧ (run ["lab.json"] env' files).exitCode = 0 ∧ HasFilter env'
      ∧ (run ["lab.json"] env' files).output
        = (Json.ofList .ofString ["uni-lab-1-web-2"]).pretty ++ "\n" := by
  intro env q env' lab files
  obtain ⟨hrequest, -, hrun⟩ := queries_asked_and_answered
  have hread : IsReadFrom q env := ⟨by decide, by decide, by decide, by decide, by decide⟩
  have hread' : IsReadFrom { copies := [2] } env' :=
    ⟨by decide, by decide, by decide, by decide, by decide⟩
  have hfilter : HasFilter env' := (hasFilter_iff hread').mpr (by decide)
  have hr : requestOf ["lab.json"] env' = .ok ⟨"lab.json", none, some { copies := [2] }⟩ :=
    (hrequest _ _ _ _ rfl).mpr ⟨by decide, isReadFrom_iff.mp hread'⟩
  have hlab : Scenario.ofText? lab.toJson.compact = some lab :=
    (Scenario.ofText?_of_isWritten lab.isWritten_toJson).2 .dense
  have hload : load files "lab.json" Scenario.ofText? = .ok lab :=
    load_eq_ok.mpr ⟨_, rfl, hlab⟩
  have hs : scenarioOf files ⟨"lab.json", none, some { copies := [2] }⟩ = .ok lab :=
    Attempt.bind_eq_ok.mpr ⟨lab, hload, rfl⟩
  have hnames : (Inventory.compile lab).map (fun inv => inv.resolve { copies := [2] })
      = .ok (.ok ["uni-lab-1-web-2"]) := by decide +kernel
  obtain ⟨inv, hinv, hnames⟩ := Attempt.map_eq_ok.mp hnames
  have hnowhere : FailsNowhere ["lab.json"] env' files ⟨"lab.json", none, some { copies := [2] }⟩
      lab inv :=
    ⟨hr, hs, hinv, fun q hq => ⟨_, Option.some.inj hq ▸ hnames⟩⟩
  obtain ⟨hexit, hprinted⟩ := hrun ["lab.json"] env' files
  refine ⟨(hrequest _ _ _ _ rfl).mpr ⟨by decide, isReadFrom_iff.mp hread⟩,
    hexit.mpr ⟨_, _, _, hnowhere⟩, hfilter, ?_⟩
  obtain ⟨q', names, hq, hnames', hout⟩ := (hprinted _ _ _ hnowhere).1.mp hfilter
  obtain rfl := Option.some.inj hq
  obtain rfl := Except.ok.inj (hnames.symm.trans hnames')
  exact hout

end RangeLab.CommandLine
