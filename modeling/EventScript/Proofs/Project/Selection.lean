import EventScript.Project.EventFile
import EventScript.Proofs.Outcome

/-! Asking a project file for some of its command lists. Whatever is asked for, the answer consists
of those among all command lists of the file that meet the question, in the same order; a question
that nothing in the file meets is refused. -/
namespace EventScript

section Positions

variable {ε α β : Type}

/-- Of lists whose elements tell the position of their list, filtering picks one. -/
lemma filter_flatten_of_key {key : α → Nat} {lists : List (List α)} {first : Nat}
    (h : ∀ j list, lists[j]? = some list → ∀ a ∈ list, key a = first + j) (p : Nat) :
    lists.flatten.filter (fun a => key a = first + p) = lists[p]?.getD [] := by
  induction lists generalizing first p with
  | nil => simp
  | cons list lists ih =>
    have hlist : ∀ a ∈ list, key a = first := h 0 list rfl
    have hrest : ∀ j other, lists[j]? = some other → ∀ a ∈ other, key a = first + 1 + j := by
      intro j other hother a ha
      rw [h (j + 1) other hother a ha]
      omega
    rw [List.flatten_cons, List.filter_append]
    cases p with
    | zero =>
      have hnone : lists.flatten.filter (fun a => key a = first + 0) = [] := by
        rw [List.filter_eq_nil_iff]
        intro a ha
        obtain ⟨other, hother, ha⟩ := List.mem_flatten.1 ha
        obtain ⟨j, hj⟩ := List.mem_iff_getElem?.1 hother
        have := hrest j other hj a ha
        simp only [decide_eq_true_eq]
        omega
      rw [hnone, List.append_nil, List.filter_eq_self.2 (by simpa using hlist)]
      rfl
    | succ p =>
      have hnone : list.filter (fun a => key a = first + (p + 1)) = [] := by
        rw [List.filter_eq_nil_iff]
        intro a ha
        simp [hlist a ha]
      have hmore := ih hrest p
      rw [hnone, List.nil_append, ← Nat.add_assoc, Nat.add_right_comm, hmore]
      rfl

/-- Of elements that tell their own positions, filtering picks one. -/
lemma filter_of_key {key : α → Nat} {list : List α} (h : ∀ j a, list[j]? = some a → key a = j)
    (p : Nat) : list.filter (fun a => key a = p) = list[p]?.toList := by
  have hkey : ∀ j single, (list.map ([·]))[j]? = some single → ∀ a ∈ single, key a = 0 + j := by
    intro j single hsingle a ha
    rw [List.getElem?_map] at hsingle
    obtain ⟨b, hb, rfl⟩ := Option.map_eq_some_iff.1 hsingle
    rw [List.mem_singleton.1 ha, h j b hb, Nat.zero_add]
  have hfilter := filter_flatten_of_key hkey p
  rw [← List.flatMap_def, List.flatMap_singleton'] at hfilter
  simp only [Nat.zero_add] at hfilter
  rw [hfilter, List.getElem?_map]
  cases list[p]? <;> rfl

/-- A function that makes of each element what another one makes of it, changed alike. -/
lemma mapM_of_mapM {f g : α → Except ε β} {change : β → β} {list : List α} {results : List β}
    (h : list.mapM f = .ok results)
    (hg : ∀ a ∈ list, ∀ b, f a = .ok b → g a = .ok (change b)) :
    list.mapM g = .ok (results.map change) := by
  induction list generalizing results with
  | nil =>
    obtain rfl : [] = results := Except.ok.inj h
    rfl
  | cons a list ih =>
    rw [List.mapM_cons] at h
    obtain ⟨b, hb, h⟩ := bind_eq_ok.1 h
    obtain ⟨more, hmore, h⟩ := bind_eq_ok.1 h
    obtain rfl : b :: more = results := Except.ok.inj h
    have hrest := ih hmore fun a ha => hg a (by simp [ha])
    rw [List.mapM_cons, hg a (by simp) b hb, hrest]
    rfl

end Positions

namespace EventRef

/-- Whether a command list belongs to an event. -/
def isOf (event : Int) (ref : EventRef) : Bool := (ref.id : Int) = event

/-- Whether a command list is that of a page. -/
def isOnPage (page : Int) (ref : EventRef) : Bool :=
  match ref.page with
  | some n => (n : Int) = page
  | none => false

/-- The order of command lists: by event, then by page. -/
def Precedes (a b : EventRef) : Prop :=
  a.id < b.id ∨ a.id = b.id ∧ ∃ p ∈ a.page, ∃ q ∈ b.page, p < q

lemma Precedes.ne {a b : EventRef} (h : a.Precedes b) : a ≠ b := by
  rintro rfl
  rcases h with h | ⟨-, p, hp, q, hq, hlt⟩
  · exact lt_irrefl _ h
  · obtain rfl := Option.some.inj (hp.symm.trans hq)
    exact lt_irrefl _ hlt

end EventRef

namespace EventFile

variable {kind : EventFile} {path : Path} {records pages : List Json} {event : Nat}
  {entries lists : List (EventRef × List Json)}

lemma getElem?_numbered {α : Type} (items : List α) (j : Nat) :
    (numbered items)[j]? = items[j]?.map (j, ·) := by
  simp [numbered, List.getElem?_zipIdx, Function.comp_def]

lemma mem_numbered {α : Type} {items : List α} {n : Nat} {item : α} :
    (n, item) ∈ numbered items ↔ items[n]? = some item := by
  simp [List.mem_iff_getElem?, getElem?_numbered]

lemma at?_natCast {α : Type} (items : List α) (n : Nat) :
    at? items (n : Int) = items[n]?.map (n, ·) := by
  simp [at?]

lemma at?_of_neg {α : Type} (items : List α) {index : Int} (h : index < 0) :
    at? items index = none := by
  simp [at?, h]

lemma eq_of_ref_eq (h : lists.Pairwise fun a b => a.1.Precedes b.1)
    {a b : EventRef × List Json} (ha : a ∈ lists) (hb : b ∈ lists) (href : a.1 = b.1) : a = b := by
  have hnodup : (lists.map Prod.fst).Nodup :=
    List.pairwise_map.2 (h.imp EventRef.Precedes.ne)
  exact List.inj_on_of_nodup_map hnodup ha hb href

/-! ### The pages of an event -/

/-- The command list of each page stands at the page's position and names it. -/
lemma ref_of_pages (h : (numbered pages).mapM (pageList path event) = .ok entries) {n : Nat}
    {entry : EventRef × List Json} (hentry : entries[n]? = some entry) :
    entry.1 = ⟨path.stem, event, some n⟩ ∧ n < pages.length := by
  obtain ⟨hsome, hnone⟩ := getElem?_mapM h n
  rw [getElem?_numbered] at hsome hnone
  cases hpage : pages[n]? with
  | none =>
    rw [hnone (by simp [hpage])] at hentry
    cases hentry
  | some page =>
    obtain ⟨listed, hlisted, hn⟩ := hsome (n, page) (by simp [hpage])
    rw [hentry] at hn
    obtain rfl := Option.some.inj hn
    refine ⟨?_, (List.getElem?_eq_some_iff.1 hpage).1⟩
    simp only [pageList] at hlisted
    cases hcommands : commands? page with
    | none => simp [hcommands] at hlisted
    | some commands =>
      rw [hcommands] at hlisted
      obtain rfl := Except.ok.inj hlisted
      rfl

lemma ref_of_mem_pages (h : (numbered pages).mapM (pageList path event) = .ok entries)
    {entry : EventRef × List Json} (hentry : entry ∈ entries) :
    ∃ n < pages.length, entry.1 = ⟨path.stem, event, some n⟩ := by
  obtain ⟨n, hn⟩ := List.mem_iff_getElem?.1 hentry
  obtain ⟨href, hlt⟩ := ref_of_pages h hn
  exact ⟨n, hlt, href⟩

lemma precedes_of_pages (h : (numbered pages).mapM (pageList path event) = .ok entries) :
    entries.Pairwise fun a b => a.1.Precedes b.1 := by
  rw [List.pairwise_iff_getElem]
  intro i j hi hj hlt
  have hfirst := (ref_of_pages h (List.getElem?_eq_getElem hi)).1
  have hsecond := (ref_of_pages h (List.getElem?_eq_getElem hj)).1
  rw [hfirst, hsecond]
  exact .inr ⟨rfl, i, rfl, j, rfl, hlt⟩

/-- The page that is asked for, among all pages of the event. -/
lemma filter_pages (h : (numbered pages).mapM (pageList path event) = .ok entries) (page : Int) :
    match at? pages page with
    | some chosen => ∃ entry, pageList path event chosen = .ok entry ∧
        entries.filter (fun entry => entry.1.isOnPage page) = [entry]
    | none => entries.filter (fun entry => entry.1.isOnPage page) = [] := by
  rcases lt_or_ge page 0 with hneg | hpos
  · rw [at?_of_neg pages hneg, List.filter_eq_nil_iff]
    intro entry hentry
    obtain ⟨n, -, href⟩ := ref_of_mem_pages h hentry
    simp only [EventRef.isOnPage, href, decide_eq_true_eq]
    omega
  · obtain ⟨n, rfl⟩ := Int.eq_ofNat_of_zero_le hpos
    have hkey : ∀ j (entry : EventRef × List Json),
        entries[j]? = some entry → entry.1.page.getD 0 = j := by
      intro j entry hentry
      rw [(ref_of_pages h hentry).1, Option.getD_some]
    have hpick : entries.filter (fun entry => entry.1.isOnPage n) = entries[n]?.toList := by
      rw [← filter_of_key hkey n]
      refine List.filter_congr fun entry hentry => ?_
      obtain ⟨m, -, href⟩ := ref_of_mem_pages h hentry
      simp [EventRef.isOnPage, href]
    obtain ⟨hsome, hnone⟩ := getElem?_mapM h n
    rw [getElem?_numbered] at hsome hnone
    rw [at?_natCast, hpick]
    cases hpage : pages[n]? with
    | none => simp [hnone (by simp [hpage])]
    | some page =>
      obtain ⟨entry, hlisted, hentry⟩ := hsome (n, page) (by simp [hpage])
      exact ⟨entry, hlisted, by simp [hentry]⟩

/-- What an event gives for a page: the command list of that page, or a refusal. -/
lemma selectPages_mapM (h : (numbered pages).mapM (pageList path event) = .ok entries)
    (page : Int) :
    (∃ entry, entries.filter (fun entry => entry.1.isOnPage page) = [entry] ∧
      (selectPages path event pages (some (.value page)) >>= List.mapM (pageList path event)) =
        .ok [entry]) ∨
    entries.filter (fun entry => entry.1.isOnPage page) = [] ∧
      (selectPages path event pages (some (.value page)) >>= List.mapM (pageList path event)) =
        .error (.noPage path event page) := by
  have hfilter := filter_pages h page
  cases hpage : at? pages page with
  | none =>
    rw [hpage] at hfilter
    refine .inr ⟨hfilter, ?_⟩
    simp only [selectPages, hpage]
    rfl
  | some chosen =>
    rw [hpage] at hfilter
    obtain ⟨entry, hlisted, hentry⟩ := hfilter
    exact .inl ⟨entry, hentry, by simp [selectPages, hpage, hlisted]⟩

/-! ### The records of a file -/

/-- What a record gives that is read as a whole: nothing, one command list, or those of its pages,
among which a page may be asked for. -/
lemma recordLists_eq_ok {record : Json}
    (h : recordLists kind path none (event, record) = .ok entries) :
    record = .null ∧ entries = [] ∨
    record ≠ .null ∧ kind = .commonEvents ∧
      (∃ commands, entries = [(⟨path.stem, event, none⟩, commands)]) ∨
    record ≠ .null ∧ kind ≠ .commonEvents ∧ ∃ fields pages, record = .obj fields ∧
      Json.field "pages" fields = .arr pages ∧
      (numbered pages).mapM (pageList path event) = .ok entries ∧
      ∀ page, recordLists kind path page (event, record) =
        (selectPages path event pages page >>= List.mapM (pageList path event)) := by
  cases record with
  | null => exact .inl ⟨rfl, (Except.ok.inj h).symm⟩
  | obj fields =>
    right
    simp only [recordLists] at h ⊢
    split_ifs at h ⊢ with hid
    cases kind with
    | commonEvents =>
      simp only [fieldLists] at h
      cases hcommands : commands? (.obj fields) with
      | none => simp [hcommands] at h
      | some commands =>
        rw [hcommands] at h
        exact .inl ⟨by simp, rfl, commands, (Except.ok.inj h).symm⟩
    | map | troops =>
      simp only [fieldLists] at h ⊢
      cases hpages : Json.field "pages" fields with
      | arr pages =>
        rw [hpages] at h
        exact .inr ⟨by simp, by simp, fields, pages, rfl, hpages, h, fun page => by simp only⟩
      | _ => simp [hpages] at h
  | _ => simp [recordLists] at h

lemma ref_of_recordLists {record : Json}
    (h : recordLists kind path none (event, record) = .ok entries) :
    ∀ entry ∈ entries, entry.1.source = path.stem ∧ entry.1.id = event := by
  rcases recordLists_eq_ok h with ⟨-, rfl⟩ | ⟨-, -, commands, rfl⟩ | ⟨-, -, _, pages, -, -, h, -⟩
  · simp
  · simp
  · intro entry hentry
    obtain ⟨n, -, href⟩ := ref_of_mem_pages h hentry
    rw [href]
    exact ⟨rfl, rfl⟩

lemma precedes_of_recordLists {record : Json}
    (h : recordLists kind path none (event, record) = .ok entries) :
    entries.Pairwise fun a b => a.1.Precedes b.1 := by
  rcases recordLists_eq_ok h with ⟨-, rfl⟩ | ⟨-, -, commands, rfl⟩ | ⟨-, -, _, pages, -, -, h, -⟩
  · simp
  · simp
  · exact precedes_of_pages h

section Records

variable {results : List (List (EventRef × List Json))} {record : Json}

lemma results_of_record
    (h : (numbered records).mapM (recordLists kind path none) = .ok results) {n : Nat}
    {record : Json} (hrecord : records[n]? = some record) :
    ∃ entries, recordLists kind path none (n, record) = .ok entries ∧
      results[n]? = some entries :=
  (getElem?_mapM h n).1 (n, record) (by simp [getElem?_numbered, hrecord])

lemma record_of_results
    (h : (numbered records).mapM (recordLists kind path none) = .ok results) {n : Nat}
    (hentries : results[n]? = some entries) :
    ∃ record, records[n]? = some record ∧ recordLists kind path none (n, record) = .ok entries := by
  cases hrecord : records[n]? with
  | none =>
    rw [(getElem?_mapM h n).2 (by simp [getElem?_numbered, hrecord])] at hentries
    cases hentries
  | some record =>
    obtain ⟨listed, hlisted, hn⟩ := results_of_record h hrecord
    rw [hentries] at hn
    obtain rfl := Option.some.inj hn
    exact ⟨record, rfl, hlisted⟩

lemma id_of_results (h : (numbered records).mapM (recordLists kind path none) = .ok results) :
    ∀ n entries, results[n]? = some entries → ∀ entry ∈ entries, entry.1.id = 0 + n := by
  intro n entries hentries entry hentry
  obtain ⟨record, -, hlisted⟩ := record_of_results h hentries
  rw [Nat.zero_add]
  exact (ref_of_recordLists hlisted entry hentry).2

/-- The command lists of a file are in order. -/
lemma precedes_of_results
    (h : (numbered records).mapM (recordLists kind path none) = .ok results) :
    results.flatten.Pairwise fun a b => a.1.Precedes b.1 := by
  rw [List.pairwise_flatten]
  constructor
  · intro entries hentries
    obtain ⟨n, hn⟩ := List.mem_iff_getElem?.1 hentries
    obtain ⟨record, -, hlisted⟩ := record_of_results h hn
    exact precedes_of_recordLists hlisted
  · rw [List.pairwise_iff_getElem]
    intro i j hi hj hlt a ha b hb
    have hfirst := id_of_results h i _ (List.getElem?_eq_getElem hi) a ha
    have hsecond := id_of_results h j _ (List.getElem?_eq_getElem hj) b hb
    exact .inl (by omega)

/-- The command lists of an event are those that its record gives. -/
lemma filter_results (h : (numbered records).mapM (recordLists kind path none) = .ok results)
    (n : Nat) :
    results.flatten.filter (fun entry => entry.1.isOf n) = results[n]?.getD [] := by
  rw [← filter_flatten_of_key (id_of_results h) n]
  refine List.filter_congr fun entry _ => ?_
  simp [EventRef.isOf]

lemma mem_entries_iff (h : (numbered records).mapM (recordLists kind path none) = .ok results)
    {n : Nat} (hrecord : records[n]? = some record)
    (hlisted : recordLists kind path none (n, record) = .ok entries)
    {entry : EventRef × List Json} :
    entry ∈ entries ↔ entry ∈ results.flatten ∧ entry.1.isOf n := by
  obtain ⟨same, hsame, hentries⟩ := results_of_record h hrecord
  obtain rfl := Except.ok.inj (hlisted.symm.trans hsame)
  have hfilter := filter_results h n
  rw [hentries, Option.getD_some] at hfilter
  rw [← hfilter, List.mem_filter]

/-- A position that holds a record. -/
def Present (records : List Json) (event : Int) : Prop :=
  ∃ (n : Nat) (record : Json), event = n ∧ records[n]? = some record ∧ record ≠ .null

lemma filter_absent (h : (numbered records).mapM (recordLists kind path none) = .ok results)
    {event : Int} (habsent : ¬Present records event) :
    results.flatten.filter (fun entry => entry.1.isOf event) = [] := by
  rw [List.filter_eq_nil_iff]
  intro entry hentry hof
  obtain ⟨entries, hentries, hentry⟩ := List.mem_flatten.1 hentry
  obtain ⟨n, hn⟩ := List.mem_iff_getElem?.1 hentries
  obtain ⟨record, hrecord, hlisted⟩ := record_of_results h hn
  refine habsent ⟨n, record, ?_, hrecord, ?_⟩
  · rw [← (ref_of_recordLists hlisted entry hentry).2]
    exact (of_decide_eq_true hof).symm
  · rintro rfl
    obtain rfl : [] = entries := Except.ok.inj hlisted
    cases hentry

/-- Where a file has command lists: one for each record that is a common event, and one for each
page of a record in the other files. -/
def HasList (kind : EventFile) (records : List Json) (id : Nat) (page : Option Nat) : Prop :=
  match kind with
  | .commonEvents => Present records id ∧ page = none
  | _ => ∃ fields pages n, records[id]? = some (.obj fields) ∧
      Json.field "pages" fields = .arr pages ∧ n < pages.length ∧ page = some n

lemma hasList_of_paged (h : kind ≠ .commonEvents) {id : Nat} {page : Option Nat} :
    HasList kind records id page ↔ ∃ fields pages n, records[id]? = some (.obj fields) ∧
      Json.field "pages" fields = .arr pages ∧ n < pages.length ∧ page = some n := by
  cases kind with
  | commonEvents => exact absurd rfl h
  | map => rfl
  | troops => rfl

/-- There is a command list in each place that has one. -/
lemma exists_of_hasList (h : (numbered records).mapM (recordLists kind path none) = .ok results)
    {id : Nat} {page : Option Nat} (hlist : HasList kind records id page) :
    ∃ entry ∈ results.flatten, entry.1 = ⟨path.stem, id, page⟩ := by
  by_cases hkind : kind = .commonEvents
  · subst hkind
    obtain ⟨⟨n, record, hid, hrecord, hne⟩, rfl⟩ := hlist
    obtain rfl : id = n := by omega
    obtain ⟨entries, hlisted, hentries⟩ := results_of_record h hrecord
    rcases recordLists_eq_ok hlisted with ⟨hnull, -⟩ | ⟨-, -, commands, rfl⟩ | ⟨-, hkind, -⟩
    · exact absurd hnull hne
    · exact ⟨_, List.mem_flatten.2 ⟨_, List.mem_of_getElem? hentries, List.mem_singleton_self _⟩,
        rfl⟩
    · exact absurd rfl hkind
  · obtain ⟨fields, pages, n, hrecord, hpages, hn, rfl⟩ := (hasList_of_paged hkind).1 hlist
    obtain ⟨entries, hlisted, hentries⟩ := results_of_record h hrecord
    rcases recordLists_eq_ok hlisted with ⟨hnull, -⟩ | ⟨-, hcommon, -⟩ |
      ⟨-, -, other, listed, hfields, hother, hmapM, -⟩
    · cases hnull
    · exact absurd hcommon hkind
    · obtain rfl := Json.obj.inj hfields
      obtain rfl := Json.arr.inj (hpages.symm.trans hother)
      obtain ⟨entry, -, hentry⟩ := (getElem?_mapM hmapM n).1 (n, pages[n])
        (by simp [getElem?_numbered, hn])
      exact ⟨entry, List.mem_flatten.2
        ⟨_, List.mem_of_getElem? hentries, List.mem_of_getElem? hentry⟩,
        (ref_of_pages hmapM hentry).1⟩

/-- There is no command list in another place. -/
lemma hasList_of_mem (h : (numbered records).mapM (recordLists kind path none) = .ok results)
    {entry : EventRef × List Json} (hentry : entry ∈ results.flatten) :
    entry.1.source = path.stem ∧ HasList kind records entry.1.id entry.1.page := by
  obtain ⟨entries, hentries, hentry⟩ := List.mem_flatten.1 hentry
  obtain ⟨n, hn⟩ := List.mem_iff_getElem?.1 hentries
  obtain ⟨record, hrecord, hlisted⟩ := record_of_results h hn
  obtain ⟨hsource, rfl⟩ := ref_of_recordLists hlisted entry hentry
  refine ⟨hsource, ?_⟩
  rcases recordLists_eq_ok hlisted with ⟨-, rfl⟩ | ⟨hne, rfl, commands, rfl⟩ |
    ⟨-, hkind, fields, pages, rfl, hpages, hmapM, -⟩
  · cases hentry
  · obtain href := List.mem_singleton.1 hentry
    exact ⟨⟨_, record, rfl, hrecord, hne⟩, by rw [href]⟩
  · obtain ⟨m, hm, hpage⟩ := ref_of_mem_pages hmapM hentry
    exact (hasList_of_paged hkind).2 ⟨fields, pages, m, hrecord, hpages, hm, by rw [hpage]⟩

/-- A record of a file with pages answers for a page with its command list, if it has one. -/
lemma recordLists_page (h : recordLists kind path none (event, record) = .ok entries)
    (hkind : kind ≠ .commonEvents) (hrecord : record ≠ .null) (page : Int) :
    (∃ entry, entries.filter (fun entry => entry.1.isOnPage page) = [entry] ∧
      recordLists kind path (some (.value page)) (event, record) = .ok [entry]) ∨
    entries.filter (fun entry => entry.1.isOnPage page) = [] ∧
      recordLists kind path (some (.value page)) (event, record) =
        .error (.noPage path event page) := by
  rcases recordLists_eq_ok h with ⟨hnull, -⟩ | ⟨-, hcommon, -⟩ |
    ⟨-, -, _, pages, -, -, hmapM, hread⟩
  · exact absurd hnull hrecord
  · exact absurd hcommon hkind
  · rw [hread]
    exact selectPages_mapM hmapM page

end Records

/-! ### The whole file -/

lemma select_present {n : Nat} {record : Json} (hrecord : records[n]? = some record)
    (hne : record ≠ .null) : select path records (some (.value n)) = .ok [(n, record)] := by
  have hat : at? records (n : Int) = some (n, record) := by rw [at?_natCast, hrecord]; rfl
  simp only [select, hat]
  cases record with
  | null => exact absurd rfl hne
  | _ => rfl

lemma select_absent {event : Int} (h : ¬Present records event) :
    select path records (some (.value event)) = .error (.noEvent path event) := by
  rcases lt_or_ge event 0 with hneg | hpos
  · simp only [select, at?_of_neg records hneg]
  · obtain ⟨n, rfl⟩ := Int.eq_ofNat_of_zero_le hpos
    simp only [select, at?_natCast]
    cases hrecord : records[n]? with
    | none => rfl
    | some record =>
      have hnull : record = .null := by
        by_contra hne
        exact h ⟨n, record, rfl, hrecord, hne⟩
      rw [hnull]
      rfl

/-- A file of a kind and its records. -/
def Holds (disk : Disk) (path : Path) (kind : EventFile) (records : List Json) : Prop :=
  detect path = .ok kind ∧
    ∃ value, payload disk path = .ok value ∧ EventFile.records kind path value = .ok records

variable {disk : Disk}

lemma holds_of_load {selection : Selection} (h : load disk path selection = .ok lists) :
    ∃ kind records, Holds disk path kind records := by
  obtain ⟨kind, hkind, h⟩ := bind_eq_ok.1 h
  obtain ⟨value, hvalue, h⟩ := bind_eq_ok.1 h
  obtain ⟨records, hrecords, -⟩ := bind_eq_ok.1 h
  exact ⟨kind, records, hkind, value, hvalue, hrecords⟩

lemma load_eq (h : Holds disk path kind records) (selection : Selection) :
    load disk path selection =
      if kind = .commonEvents ∧ selection.page.isSome then .error .pageOfCommonEvent
      else do
        let chosen ← select path records selection.event
        let results ← chosen.mapM (recordLists kind path selection.page)
        return results.flatten := by
  obtain ⟨hkind, value, hvalue, hrecords⟩ := h
  simp only [load, lists, hkind, hvalue, hrecords, ok_bind]
  split_ifs <;> rfl

lemma results_of_load (hholds : Holds disk path kind records)
    (h : load disk path {} = .ok lists) : ∃ results,
      (numbered records).mapM (recordLists kind path none) = .ok results ∧
        lists = results.flatten := by
  rw [load_eq hholds] at h
  simp only [Option.isSome_none, Bool.false_eq_true, and_false, if_false] at h
  obtain ⟨chosen, hchosen, h⟩ := bind_eq_ok.1 h
  obtain rfl : numbered records = chosen := Except.ok.inj hchosen
  obtain ⟨results, hresults, h⟩ := bind_eq_ok.1 h
  exact ⟨results, hresults, (Except.ok.inj h).symm⟩

section Questions

variable {results : List (List (EventRef × List Json))}

lemma load_event (hholds : Holds disk path kind records)
    (h : (numbered records).mapM (recordLists kind path none) = .ok results) (event : Int) :
    (Present records event → load disk path ⟨some (.value event), none⟩ =
        .ok (results.flatten.filter fun entry => entry.1.isOf event)) ∧
      (¬Present records event →
        load disk path ⟨some (.value event), none⟩ = .error (.noEvent path event)) := by
  rw [load_eq hholds]
  simp only [Option.isSome_none, Bool.false_eq_true, and_false, if_false]
  constructor
  · rintro ⟨n, record, rfl, hrecord, hne⟩
    obtain ⟨entries, hlisted, hentries⟩ := results_of_record h hrecord
    rw [select_present hrecord hne, filter_results h, hentries]
    simp [hlisted]
  · intro habsent
    rw [select_absent habsent]
    rfl

lemma load_event_page (hholds : Holds disk path kind records)
    (h : (numbered records).mapM (recordLists kind path none) = .ok results)
    (hkind : kind ≠ .commonEvents) (event page : Int) :
    (∃ entry,
      results.flatten.filter (fun entry => entry.1.isOnPage page && entry.1.isOf event) = [entry] ∧
      load disk path ⟨some (.value event), some (.value page)⟩ = .ok [entry]) ∨
    results.flatten.filter (fun entry => entry.1.isOnPage page && entry.1.isOf event) = [] ∧
      (load disk path ⟨some (.value event), some (.value page)⟩ = .error (.noEvent path event) ∨
        ∃ n : Nat, event = n ∧ load disk path ⟨some (.value event), some (.value page)⟩ =
          .error (.noPage path n page)) := by
  rw [load_eq hholds, ← List.filter_filter]
  simp only [hkind, false_and, if_false]
  by_cases hpresent : Present records event
  · obtain ⟨n, record, rfl, hrecord, hne⟩ := hpresent
    obtain ⟨entries, hlisted, hentries⟩ := results_of_record h hrecord
    rw [select_present hrecord hne, filter_results h, hentries, Option.getD_some]
    rcases recordLists_page hlisted hkind hne page with ⟨entry, hfilter, hread⟩ | ⟨hfilter, hread⟩
    · exact .inl ⟨entry, hfilter, by simp [hread]⟩
    · refine .inr ⟨hfilter, .inr ⟨n, rfl, ?_⟩⟩
      simp only [ok_bind, List.mapM_cons, hread]
      rfl
  · rw [select_absent hpresent, filter_absent h hpresent]
    exact .inr ⟨rfl, .inl rfl⟩

lemma load_page (hholds : Holds disk path kind records)
    (h : (numbered records).mapM (recordLists kind path none) = .ok results)
    (hkind : kind ≠ .commonEvents) {page : Int}
    (hall : ∀ event, Present records event → ∃ entry ∈ results.flatten,
      entry.1.isOf event ∧ entry.1.isOnPage page) :
    load disk path ⟨none, some (.value page)⟩ =
      .ok (results.flatten.filter fun entry => entry.1.isOnPage page) := by
  have hread : (numbered records).mapM (recordLists kind path (some (.value page))) =
      .ok (results.map (List.filter fun entry => entry.1.isOnPage page)) := by
    refine mapM_of_mapM h fun (n, record) hrecord entries hlisted => ?_
    by_cases hne : record = .null
    · subst hne
      obtain rfl : [] = entries := Except.ok.inj hlisted
      rfl
    · have hrecord := mem_numbered.1 hrecord
      rcases recordLists_page hlisted hkind hne page with ⟨entry, hfilter, hread⟩ | ⟨hfilter, -⟩
      · rw [hfilter, hread]
      · obtain ⟨entry, hentry, hof, hpage⟩ := hall n ⟨n, record, rfl, hrecord, hne⟩
        have hmem := (mem_entries_iff h hrecord hlisted).2 ⟨hentry, hof⟩
        exact absurd hpage (List.filter_eq_nil_iff.1 hfilter entry hmem)
  rw [load_eq hholds]
  simp only [hkind, false_and, if_false, select, ok_bind, hread, List.filter_flatten]
  rfl

/-- A record that is read as a whole is refused for want of the page only. -/
lemma fault_of_recordLists {event : Nat} {record : Json} {fault : Fault} {page : Int}
    (hlisted : recordLists kind path none (event, record) = .ok entries)
    (hkind : kind ≠ .commonEvents)
    (h : recordLists kind path (some (.value page)) (event, record) = .error fault) :
    fault = .noPage path event page := by
  by_cases hnull : record = .null
  · subst hnull
    cases h
  · rcases recordLists_page hlisted hkind hnull page with ⟨entry, -, hok⟩ | ⟨-, hrefused⟩
    · rw [h] at hok
      cases hok
    · exact Except.error.inj (h.symm.trans hrefused)

lemma load_page_missing (hholds : Holds disk path kind records)
    (h : (numbered records).mapM (recordLists kind path none) = .ok results)
    (hkind : kind ≠ .commonEvents) {event page : Int} (hpresent : Present records event)
    (hnone : ∀ entry ∈ results.flatten, entry.1.isOf event → ¬entry.1.isOnPage page) :
    ∃ n, load disk path ⟨none, some (.value page)⟩ = .error (.noPage path n page) := by
  obtain ⟨n, record, rfl, hrecord, hne⟩ := hpresent
  obtain ⟨entries, hlisted, -⟩ := results_of_record h hrecord
  have hfilter : entries.filter (fun entry => entry.1.isOnPage page) = [] := by
    refine List.filter_eq_nil_iff.2 fun entry hentry => ?_
    obtain ⟨hentry, hof⟩ := (mem_entries_iff h hrecord hlisted).1 hentry
    exact hnone entry hentry hof
  rw [load_eq hholds]
  simp only [hkind, false_and, if_false, select, ok_bind]
  -- the page may be missing in an earlier event already
  cases hread : (numbered records).mapM (recordLists kind path (some (.value page))) with
  | ok read =>
    obtain ⟨others, hothers⟩ := exists_ok_of_mapM hread (n, record) (mem_numbered.2 hrecord)
    rcases recordLists_page hlisted hkind hne page with ⟨entry, hentry, -⟩ | ⟨-, hrefused⟩
    · rw [hfilter] at hentry
      cases hentry
    · rw [hrefused] at hothers
      cases hothers
  | error fault =>
    obtain ⟨⟨m, other⟩, hother, hfault⟩ := exists_error_of_mapM hread
    obtain ⟨listed, hlisted, -⟩ := results_of_record h (mem_numbered.1 hother)
    obtain rfl := fault_of_recordLists hlisted hkind hfault
    exact ⟨m, rfl⟩

end Questions

/-- If all command lists of a file can be read, they are in order, one in each place that has one;
and asking for an event, for a page of it or for a page of all events gives those among them that
are asked for. It is refused to ask for an event that is not there, for a page that one of the
events in question has not got, or for a page of a common event. -/
theorem load_selects (h : load disk path {} = .ok lists) :
    ∃ kind records, Holds disk path kind records ∧
      (lists.Pairwise (fun a b => a.1.Precedes b.1) ∧
        (∀ id page, HasList kind records id page →
          ∃! entry, entry ∈ lists ∧ entry.1 = ⟨path.stem, id, page⟩) ∧
        ∀ entry ∈ lists, entry.1.source = path.stem ∧
          HasList kind records entry.1.id entry.1.page) ∧
      (∀ event,
        (Present records event → load disk path ⟨some (.value event), none⟩ =
          .ok (lists.filter fun entry => entry.1.isOf event)) ∧
        (¬Present records event →
          load disk path ⟨some (.value event), none⟩ = .error (.noEvent path event))) ∧
      (kind ≠ .commonEvents → ∀ event page,
        (∃ entry,
          lists.filter (fun entry => entry.1.isOnPage page && entry.1.isOf event) = [entry] ∧
          load disk path ⟨some (.value event), some (.value page)⟩ = .ok [entry]) ∨
        lists.filter (fun entry => entry.1.isOnPage page && entry.1.isOf event) = [] ∧
          (load disk path ⟨some (.value event), some (.value page)⟩ =
              .error (.noEvent path event) ∨
            ∃ n : Nat, event = n ∧ load disk path ⟨some (.value event), some (.value page)⟩ =
              .error (.noPage path n page))) ∧
      (kind ≠ .commonEvents → ∀ page,
        ((∀ event, Present records event →
            ∃ entry ∈ lists, entry.1.isOf event ∧ entry.1.isOnPage page) →
          load disk path ⟨none, some (.value page)⟩ =
            .ok (lists.filter fun entry => entry.1.isOnPage page)) ∧
        (∀ event, Present records event →
          (∀ entry ∈ lists, entry.1.isOf event → ¬entry.1.isOnPage page) →
          ∃ n, load disk path ⟨none, some (.value page)⟩ = .error (.noPage path n page))) ∧
      (kind = .commonEvents → ∀ event page,
        load disk path ⟨event, some (.value page)⟩ = .error .pageOfCommonEvent) := by
  obtain ⟨kind, records, hholds⟩ := holds_of_load h
  obtain ⟨results, hresults, rfl⟩ := results_of_load hholds h
  refine ⟨kind, records, hholds, ⟨precedes_of_results hresults, ?_, ?_⟩, load_event hholds hresults,
    load_event_page hholds hresults, ?_, ?_⟩
  · intro id page hlist
    obtain ⟨entry, hentry, href⟩ := exists_of_hasList hresults hlist
    refine ⟨entry, ⟨hentry, href⟩, fun other ⟨hother, hsame⟩ => ?_⟩
    exact eq_of_ref_eq (precedes_of_results hresults) hother hentry (hsame.trans href.symm)
  · exact fun entry hentry => hasList_of_mem hresults hentry
  · intro hkind page
    exact ⟨load_page hholds hresults hkind, fun event => load_page_missing hholds hresults hkind⟩
  · rintro rfl event page
    rw [load_eq hholds]
    rfl

/-- A file with a troop that has two pages, and one that has none. -/
def twoTroops : Disk :=
  Disk.withFile {} ⟨0, ["Troops.json"]⟩ <| (Text.encodeUtf8? (
    "[null,\x7b\"id\":1,\"pages\":[\x7b\"list\":[]\x7d,\x7b\"list\":[]\x7d]\x7d," ++
    "\x7b\"id\":2,\"pages\":[]\x7d]")).getD []

lemma load_twoTroops : ∃ lists, load twoTroops ⟨0, ["Troops.json"]⟩ {} = .ok lists ∧
    lists.map Prod.fst = [⟨"Troops", 1, some 0⟩, ⟨"Troops", 1, some 1⟩] := by
  have h : (load twoTroops ⟨0, ["Troops.json"]⟩ {}).toOption.map (List.map Prod.fst) =
      some [⟨"Troops", 1, some 0⟩, ⟨"Troops", 1, some 1⟩] := by
    decide +kernel
  cases hload : load twoTroops ⟨0, ["Troops.json"]⟩ {} with
  | error fault =>
    rw [hload] at h
    cases h
  | ok lists =>
    rw [hload] at h
    exact ⟨lists, rfl, Option.some.inj h⟩

/-- The second page of the first troop is one of the command lists, and is given when asked for. -/
theorem load_selects_twoTroops : ∃ lists, load twoTroops ⟨0, ["Troops.json"]⟩ {} = .ok lists ∧
    ∃ entry ∈ lists, entry.1 = ⟨"Troops", 1, some 1⟩ ∧
      load twoTroops ⟨0, ["Troops.json"]⟩ ⟨some (.value 1), some (.value 1)⟩ = .ok [entry] := by
  obtain ⟨lists, hload, hrefs⟩ := load_twoTroops
  obtain ⟨kind, records, ⟨hkind, -⟩, -, -, hpages, -⟩ := load_selects hload
  have hpaged : kind ≠ .commonEvents := by
    rintro rfl
    have hdetect : (detect ⟨0, ["Troops.json"]⟩).toOption = some .troops := by decide +kernel
    rw [hkind] at hdetect
    cases hdetect
  have hchosen : (lists.map Prod.fst).filter (fun ref => ref.isOnPage 1 && ref.isOf 1) =
      [⟨"Troops", 1, some 1⟩] := by
    rw [hrefs]
    decide +kernel
  simp only [List.filter_map, Function.comp_def] at hchosen
  refine ⟨lists, hload, ?_⟩
  rcases hpages hpaged 1 1 with ⟨entry, hentry, hgiven⟩ | ⟨hnone, -⟩
  · rw [hentry] at hchosen
    have hmem : entry ∈ lists.filter fun entry => entry.1.isOnPage 1 && entry.1.isOf 1 := by
      rw [hentry]
      exact List.mem_singleton_self entry
    exact ⟨entry, List.mem_of_mem_filter hmem, (List.cons.inj hchosen).1, hgiven⟩
  · rw [hnone] at hchosen
    cases hchosen

end EventFile

end EventScript
