import Ghostwriter.Proofs.Expansion.History

/-!
The requests of a file: one for each key that has no record, in the order in which the keys first
occur. There is one exception. A path that goes up again may lead to a folder that is there only
once the folders on the way are made, and then records turn up that were not found before.
-/

namespace Ghostwriter

open Ghostwriter.Text

namespace Cache

-- A record that is found only once the folder has been made.
def Uncovered (folder : Path) (disk : Disk) (key : Text) : Prop :=
  record folder disk key = none ∧ record folder (disk.makeFolders folder).2 key ≠ none

-- Only where the path to the folder goes up can making it uncover a record.
theorem upward_mem_of_uncovered {folder : Path} {disk : Disk} {key : Text} (hkey : isKey key)
    (h : Uncovered folder disk key) : Disk.upward ∈ folder.parts := by
  by_contra hparts
  obtain ⟨hnone, hfound⟩ := h
  obtain ⟨t, ht⟩ := Option.ne_none_iff_exists'.mp hfound
  obtain ⟨content, hcontents, hdecode⟩ := (record_eq_some_iff _ _ _ _).mp ht
  have hup : Disk.upward ∉ (folder.child key).parts := by
    simp [Path.child, hparts, (ne_upward_of_isKey hkey).symm]
  have hbefore := (Disk.extends_makeFolders disk folder).contents_before hup hcontents
  rw [(record_eq_some_iff _ _ _ _).mpr ⟨content, hbefore, hdecode⟩] at hnone
  cases hnone

-- A folder that is there uncovers nothing.
theorem not_uncovered_of_leadsTo {folder : Path} {disk : Disk} {there : List Text} {key : Text}
    (h : Disk.LeadsTo disk folder there) : ¬ Uncovered folder disk key := by
  rintro ⟨hnone, hfound⟩
  rw [Disk.makeFolders_of_leadsTo h] at hfound
  exact hfound hnone

-- The keys without a record, each once, in the order in which they first occur.
def due (folder : Path) (disk : Disk) (keys : List Text) : List Text :=
  (keys.filter fun key => (record folder disk key).isNone).eraseDups

end Cache

namespace Expander

-- The keys that are asked for.
def askedKeys (es : List Expansion) : List Text := (es.filter fun e => !e.cached).map (·.key)

-- How a directive comes to its code: from its record, or from an answer that is kept.
theorem run_expand_ok_cases {expander : Expander} {source : Source} {site : Site}
    {desk after : Desk} {e : Expansion}
    (h : (expander.expand source site).run desk = (.ok e, after)) :
    e.site = site ∧ (∃ plan, expander.plan source site = .ok plan ∧ plan.key = e.key) ∧
      after.cache.folder = desk.cache.folder ∧
      ((e.cached = true ∧ (∃ t, Cache.record desk.cache.folder desk.disk e.key = some t) ∧
          after.disk = desk.disk ∧ after.sent = desk.sent) ∨
        (e.cached = false ∧ Cache.Missing desk.cache.folder desk.disk e.key ∧
          ∃ request text p,
            ((Cache.ofFolder desk.cache.folder).store desk.disk e.key text).1 = .ok p ∧
            after.disk = ((Cache.ofFolder desk.cache.folder).store desk.disk e.key text).2.1 ∧
            after.sent = desk.sent ++ [request] ∧
            Course.Asks expander source site desk.sent request (some text))) := by
  obtain ⟨plan, text, hcomes⟩ := comes_of_run h
  obtain ⟨snippet, -, he⟩ := Plan.outcome_eq_ok_iff.mp hcomes.settled
  have hkey : plan.key = e.key := by rw [he]
  refine ⟨by rw [he], ⟨plan, hcomes.planned, hkey⟩, hcomes.folder, ?_⟩
  have horigin := hcomes.origin
  rw [hkey] at horigin
  rcases horigin with ⟨hcached, hrecord, hdisk, hsent⟩ |
    ⟨hcached, hmissing, request, client, p, -, hrequest, hclient, hanswer, hkept, hdisk, hsent⟩
  · exact .inl ⟨hcached, ⟨text, hrecord⟩, hdisk, hsent⟩
  · exact .inr ⟨hcached, hmissing, request, text, p, hkept, hdisk, hsent,
      plan, client, hcomes.planned, hrequest, hclient, by rw [hanswer]; rfl⟩

end Expander

namespace Cache

theorem due_cons_of_record {folder : Path} {disk : Disk} {key t : Text} {keys : List Text}
    (h : record folder disk key = some t) :
    due folder disk (key :: keys) = due folder disk keys := by
  unfold due
  rw [List.filter_cons_of_neg (by simp [h])]

-- Once the first key is on record, the others are left.
theorem due_cons_of_missing {folder : Path} {disk : Disk} {key : Text} {keys : List Text}
    (h : record folder disk key = none) :
    due folder disk (key :: keys) =
      key :: (keys.filter fun other =>
        (record folder disk other).isNone && !(other == key)).eraseDups := by
  unfold due
  rw [List.filter_cons_of_pos (by simp [h]), List.eraseDups_cons, List.filter_filter]
  simp only [Bool.and_comm]

-- After a store the folder is there, and only keys without a record in it are due.
theorem due_store {folder : Path} {disk : Disk} {key t : Text} {keys : List Text} {p : Path}
    (hkey : isKey key) (hkeys : ∀ other ∈ keys, isKey other) (hmissing : Missing folder disk key)
    (h : ((ofFolder folder).store disk key t).1 = .ok p) :
    due folder ((ofFolder folder).store disk key t).2.1 keys =
      (keys.filter fun other =>
        (record folder (disk.makeFolders folder).2 other).isNone && !(other == key)).eraseDups := by
  have hmissing : Missing (ofFolder folder).folder disk key := hmissing
  unfold due
  refine congrArg List.eraseDups (List.filter_congr fun other hother => ?_)
  by_cases hsame : other = key
  · subst hsame
    have hrecord := record_of_store hkey hmissing h
    simp only [ofFolder] at hrecord ⊢
    simp [hrecord]
  · have hrecord := record_of_store_ne hkey (hkeys other hother) hsame hmissing h
    simp only [ofFolder] at hrecord ⊢
    simp [hrecord, hsame]

theorem settled_store {folder : Path} {disk : Disk} {key t : Text} {p : Path}
    (hkey : isKey key) (hmissing : Missing folder disk key)
    (h : ((ofFolder folder).store disk key t).1 = .ok p) :
    (((ofFolder folder).store disk key t).2.1.makeFolders folder).2 =
      ((ofFolder folder).store disk key t).2.1 :=
  makeFolders_of_record hkey (record_of_store hkey hmissing h)

end Cache

namespace Expander

theorem askedKeys_cons (e : Expansion) (es : List Expansion) :
    askedKeys (e :: es) = if e.cached then askedKeys es else e.key :: askedKeys es := by
  cases hcached : e.cached <;> simp [askedKeys, hcached]

theorem isKey_of_run {expander : Expander} {source : Source} {sites : List Site}
    {desk after : Desk} {es : List Expansion}
    (h : (sites.mapM (expander.expand source)).run desk = (.ok es, after)) :
    ∀ key ∈ es.map (·.key), Cache.isKey key := by
  rw [List.forall_mem_map]
  refine Work.forall_of_run_mapM (fun site e desk after hsite => ?_) h
  obtain ⟨-, ⟨plan, hplan, hkey⟩, -⟩ := run_expand_ok_cases hsite
  exact hkey ▸ isKey_of_plan hplan

-- Where making the folder shows nothing new, the keys that are asked for are those that are due.
theorem askedKeys_of_settled {expander : Expander} {source : Source} {sites : List Site}
    {desk after : Desk} {es : List Expansion}
    (h : (sites.mapM (expander.expand source)).run desk = (.ok es, after))
    (hsettled : (desk.disk.makeFolders desk.cache.folder).2 = desk.disk) :
    askedKeys es = Cache.due desk.cache.folder desk.disk (es.map (·.key)) := by
  induction sites generalizing desk es with
  | nil =>
    rw [Work.run_mapM_nil] at h
    cases h
    rfl
  | cons site rest ih =>
    obtain ⟨e, middle, others, hsite, hrest, rfl⟩ := Work.run_mapM_cons_ok h
    have hkeys := isKey_of_run hrest
    obtain ⟨-, ⟨plan, hplan, hplankey⟩, hfolder, hcase⟩ := run_expand_ok_cases hsite
    have hkey := hplankey ▸ isKey_of_plan hplan
    rw [askedKeys_cons, List.map_cons]
    rcases hcase with ⟨hcached, ⟨t, hrecord⟩, hdisk, -⟩ | hcase
    · rw [if_pos hcached, Cache.due_cons_of_record hrecord]
      have hothers := ih hrest (by rw [hfolder, hdisk, hsettled])
      rwa [hfolder, hdisk] at hothers
    · obtain ⟨hcached, hmissing, request, text, p, hkept, hdisk, -, -⟩ := hcase
      have hothers := ih hrest (by rw [hfolder, hdisk, Cache.settled_store hkey hmissing hkept])
      rw [hfolder, hdisk, Cache.due_store hkey hkeys hmissing hkept, hsettled] at hothers
      rw [hcached, if_neg (by simp), hothers,
        Cache.due_cons_of_missing (Cache.record_of_missing hmissing)]

-- The keys that are asked for are those that are due exactly if no record turns up on the way,
-- except perhaps for the key that is asked for first.
theorem askedKeys_eq_due_iff {expander : Expander} {source : Source} {sites : List Site}
    {desk after : Desk} {es : List Expansion}
    (h : (sites.mapM (expander.expand source)).run desk = (.ok es, after)) :
    askedKeys es = Cache.due desk.cache.folder desk.disk (es.map (·.key)) ↔
      ∀ key ∈ es.map (·.key), Cache.Uncovered desk.cache.folder desk.disk key →
        (Cache.due desk.cache.folder desk.disk (es.map (·.key))).head? = some key := by
  induction sites generalizing desk es with
  | nil =>
    rw [Work.run_mapM_nil] at h
    cases h
    simp [askedKeys, Cache.due]
  | cons site rest ih =>
    obtain ⟨e, middle, others, hsite, hrest, rfl⟩ := Work.run_mapM_cons_ok h
    have hkeys := isKey_of_run hrest
    obtain ⟨-, ⟨plan, hplan, hplankey⟩, hfolder, hcase⟩ := run_expand_ok_cases hsite
    have hkey := hplankey ▸ isKey_of_plan hplan
    rw [askedKeys_cons, List.map_cons]
    rcases hcase with ⟨hcached, ⟨t, hrecord⟩, hdisk, -⟩ | hcase
    · have hothers := ih hrest
      rw [hfolder, hdisk] at hothers
      have hcovered : ¬ Cache.Uncovered desk.cache.folder desk.disk e.key := by
        rintro ⟨hnone, -⟩
        rw [hrecord] at hnone
        cases hnone
      rw [if_pos hcached, Cache.due_cons_of_record hrecord, hothers, List.forall_mem_cons]
      simp [hcovered]
    · obtain ⟨hcached, hmissing, request, text, p, hkept, hdisk, -, -⟩ := hcase
      have hothers := askedKeys_of_settled hrest
        (by rw [hfolder, hdisk, Cache.settled_store hkey hmissing hkept])
      rw [hfolder, hdisk, Cache.due_store hkey hkeys hmissing hkept] at hothers
      rw [hcached, if_neg (by simp), hothers,
        Cache.due_cons_of_missing (Cache.record_of_missing hmissing)]
      constructor
      · intro hsame key hmem ⟨hnone, hfound⟩
        by_contra hother
        have hne : key ≠ e.key := fun heq => hother (by rw [heq]; rfl)
        have hlater : key ∈ others.map (·.key) := by simpa [hne] using hmem
        have hdue : key ∈ ((others.map (·.key)).filter fun other =>
            (Cache.record desk.cache.folder desk.disk other).isNone &&
              !(other == e.key)).eraseDups :=
          List.mem_eraseDups.mpr (List.mem_filter.mpr ⟨hlater, by simp [hnone, hne]⟩)
        rw [← (List.cons.inj hsame).2, List.mem_eraseDups, List.mem_filter] at hdue
        simp [hfound] at hdue
      · intro hcovered
        refine congrArg (fun keys : List Text => e.key :: keys.eraseDups) ?_
        refine List.filter_congr fun other hother => ?_
        by_cases hsame : other = e.key
        · simp [hsame]
        · refine congrArg (· && !(other == e.key)) ?_
          cases hrecord : Cache.record desk.cache.folder desk.disk other with
          | some t => rw [Cache.record_makeFolders hrecord]
          | none =>
            have hfirst := hcovered other (List.mem_cons_of_mem _ hother)
            by_contra hfound
            simp only [Option.isNone_none, Option.isNone_iff_eq_none] at hfound
            have hhead := hfirst ⟨hrecord, hfound⟩
            exact hsame (Option.some.inj hhead).symm

-- The request that a directive leads to.
def RequestFor (expander : Expander) (source : Source) (e : Expansion) (request : Request) :
    Prop :=
  ∃ plan, expander.plan source e.site = .ok plan ∧ plan.key = e.key ∧
    requestFor source e.site plan = .ok request

-- A request is sent for each directive that is not expanded from its record, and for no other.
theorem requests_of_run {expander : Expander} {source : Source} {sites : List Site}
    {desk after : Desk} {es : List Expansion}
    (h : (sites.mapM (expander.expand source)).run desk = (.ok es, after)) :
    ∃ requests, after.sent = desk.sent ++ requests ∧
      List.Forall₂ (expander.RequestFor source) (es.filter fun e => !e.cached) requests := by
  induction sites generalizing desk es with
  | nil =>
    rw [Work.run_mapM_nil] at h
    cases h
    exact ⟨[], by simp, .nil⟩
  | cons site rest ih =>
    obtain ⟨e, middle, others, hsite, hrest, rfl⟩ := Work.run_mapM_cons_ok h
    obtain ⟨requests, hsent, hrequests⟩ := ih hrest
    obtain ⟨rfl, ⟨plan, hplan, hkey⟩, -, hcase⟩ := run_expand_ok_cases hsite
    rcases hcase with ⟨hcached, -, -, hsame⟩ | hcase
    · exact ⟨requests, by rw [hsent, hsame], by simpa [hcached] using hrequests⟩
    · obtain ⟨hcached, -, request, text, p, -, -, hasked, hasks⟩ := hcase
      refine ⟨request :: requests, by rw [hsent, hasked]; simp, ?_⟩
      rw [List.filter_cons_of_pos (by simp [hcached])]
      obtain ⟨plan', client, hplan', hrequest, -, -⟩ := hasks
      rw [hplan, Except.ok.injEq] at hplan'
      exact .cons ⟨plan, hplan, hkey, hplan' ▸ hrequest⟩ hrequests

end Expander

-- In a history of calls and discards no text is paid for twice without a discard of its key, and
-- whoever comes later gets what was paid for. Among the sites of a file that are expanded before
-- one fails, those whose keys are due are asked for, once and in order. This can only fail where
-- making the cache folder uncovers records, so never without a step up in its path, nor once it
-- is there.
theorem paid_once (folder : Path) (disk : Disk) (steps : List Step)
    (hallowed : ∀ entry ∈ entriesOf folder steps disk, entry.Allowed folder) :
    (∀ pre v between w post key text,
      entriesOf folder steps disk = pre ++ .visit v :: between ++ .visit w :: post →
      v.key? = some key → w.key? = some key → v.Paid text → Entry.discarded key ∉ between →
      w.Reuses text ∧ ∀ other, ¬ w.Paid other) ∧
      (∀ (expander : Expander) (source : Source) (sites : List Site) (desk middle : Desk)
        (es : List Expansion), desk.cache.folder = folder →
        (sites.mapM (expander.expand source)).run desk = (.ok es, middle) →
        (∃ requests, middle.sent = desk.sent ++ requests ∧
          List.Forall₂ (expander.RequestFor source) (es.filter fun e => !e.cached) requests) ∧
        (Expander.askedKeys es = Cache.due folder desk.disk (es.map (·.key)) ↔
          ∀ key ∈ es.map (·.key), Cache.Uncovered folder desk.disk key →
            (Cache.due folder desk.disk (es.map (·.key))).head? = some key) ∧
        (Disk.upward ∉ folder.parts ∨ (∃ there, Disk.LeadsTo desk.disk folder there) →
          Expander.askedKeys es = Cache.due folder desk.disk (es.map (·.key)))) := by
  constructor
  · intro pre v between w post key text hsplit hv hw hpaid hdiscarded
    exact reuses_of_paid hallowed hsplit hv hw hpaid hdiscarded
  · rintro expander source sites desk middle es rfl hrun
    have hiff := Expander.askedKeys_eq_due_iff hrun
    refine ⟨Expander.requests_of_run hrun, hiff, fun hfolder => hiff.mpr ?_⟩
    intro key hkey huncovered
    rcases hfolder with hparts | ⟨there, hthere⟩
    · exact absurd (Cache.upward_mem_of_uncovered (Expander.isKey_of_run hrun key hkey) huncovered)
        hparts
    · exact absurd huncovered (Cache.not_uncovered_of_leadsTo hthere)

namespace Visit

theorem not_storeFails_of_text {v : Visit} {text : Text}
    (h : v.course.text.toOption = some text) : ¬ v.StoreFails := by
  rintro ⟨plan, request, text', failure, hcourse⟩
  rw [hcourse] at h
  cases h

end Visit

open Expander

def otherKey : Text := List.replicate 64 '0'

def brokenVisit : Visit := ⟨answering "x =\n".toList, branch "a.py", branchSite, emptyDesk⟩

def discardedDisk : Disk :=
  ((Cache.ofFolder (.ofText "records".toList)).discard brokenVisit.after.disk otherKey).2.1

def laterVisit : Visit :=
  ⟨bare, branch "b.py", branchSite, { emptyDesk with disk := discardedDisk }⟩

-- An answer that is no code, the discarding of another record, and the same directive for somebody
-- who cannot ask.
def brokenSteps : List Step :=
  [.call ⟨brokenVisit.expander, 0, 0, [], .expand (branch "a.py") branchSite⟩,
    .discard otherKey, .call ⟨bare, 0, 0, [], .expand (branch "b.py") branchSite⟩]

theorem plan_brokenVisit :
    brokenVisit.expander.plan brokenVisit.source brokenVisit.site = .ok branchPlan :=
  plan_branch "a.py" _

theorem plan_laterVisit :
    laterVisit.expander.plan laterVisit.source laterVisit.site = .ok branchPlan :=
  plan_branch "b.py" _

theorem entriesOf_brokenSteps :
    entriesOf (.ofText "records".toList) brokenSteps emptyDesk.disk =
      [.visit brokenVisit, .discarded otherKey, .visit laterVisit] := by
  have hdisk : ((Cache.ofFolder (.ofText "records".toList)).discard brokenVisit.after.disk
      otherKey).2.1 = discardedDisk := by
    rw [discardedDisk]
  rw [brokenSteps, entriesOf_expand (v := brokenVisit) rfl rfl, entriesOf_discard hdisk,
    entriesOf_expand (v := laterVisit) rfl rfl, entriesOf]

theorem paid_once_broken :
    (∀ entry ∈ entriesOf (.ofText "records".toList) brokenSteps emptyDesk.disk,
      entry.Allowed (.ofText "records".toList)) ∧
      brokenVisit.Paid "x =\n".toList ∧ brokenVisit.key? = laterVisit.key? ∧
      laterVisit.Reuses "x =\n".toList ∧ ∀ other, ¬ laterVisit.Paid other := by
  have hfirst : brokenVisit.course.text.toOption = some "x =\n".toList := by
    rw [Visit.course_of_plan plan_brokenVisit]
    decide +kernel
  have hlater : laterVisit.course.text.toOption = some "x =\n".toList := by
    rw [Visit.course_of_plan plan_laterVisit, laterVisit, discardedDisk,
      Visit.after_of_plan plan_brokenVisit]
    decide +kernel
  have hallowed : ∀ entry ∈ entriesOf (.ofText "records".toList) brokenSteps emptyDesk.disk,
      entry.Allowed (.ofText "records".toList) := by
    rw [entriesOf_brokenSteps]
    simp only [List.forall_mem_cons, Entry.Allowed, true_and]
    exact ⟨Visit.not_storeFails_of_text hfirst, Visit.not_storeFails_of_text hlater, by simp⟩
  have hpaid : brokenVisit.Paid "x =\n".toList := by
    rw [Visit.Paid, Visit.course_of_plan plan_brokenVisit]
    decide +kernel
  have hkey := Visit.key_of_plan plan_brokenVisit
  have hkey' := Visit.key_of_plan plan_laterVisit
  have hdiscarded : Entry.discarded branchPlan.key ∉ [Entry.discarded otherKey] := by
    rw [List.mem_singleton, Entry.discarded.injEq]
    decide
  have hreuses := (paid_once _ _ brokenSteps hallowed).1 [] brokenVisit
    [.discarded otherKey] laterVisit [] _ _ entriesOf_brokenSteps hkey hkey' hpaid hdiscarded
  exact ⟨hallowed, hpaid, hkey.trans hkey'.symm, hreuses⟩

-- Two directives in one file, and their keys.
def pair : Source := ⟨.ofText "a.py".toList, encode "magic()\ndo_it()\n".toList⟩

def pairSites : List Site :=
  [⟨.ofText "a.py".toList, "magic".toList, [], ⟨1, 0⟩, ⟨1, 7⟩, []⟩,
    ⟨.ofText "a.py".toList, "do_it".toList, [], ⟨2, 0⟩, ⟨2, 7⟩, []⟩]

theorem text_pair : pair.text = .ok "magic()\ndo_it()\n".toList := Source.text_encode _ _

theorem find_pair : Directive.find pair.path "magic()\ndo_it()\n".toList = .ok pairSites :=
  ok_of_toOption (by decide +kernel)

def magicKey : Text :=
  "13f94da30689c58b981e75470ea2ce26e80c3b5f1f2375b2e5a9083b14b74057".toList

def doItKey : Text :=
  "3eeb306b652cb932eab6ee2eeb6d1968b9068a39ef3e15d7564891a44c3f3398".toList

def magicDigest : Text :=
  ["0ead31191a191979", "7459b759271c89ca", "eadb1869daf80335", "1871025c170a1236"].flatMap
    String.toList

def doItDigest : Text :=
  ["4d9c1f648b4f193e", "07458f368fa320fc", "da62d4f295dc8936", "ee0ca5897843fd09"].flatMap
    String.toList

def magicSite : Site :=
  ⟨.ofText "a.py".toList, "magic".toList, [], ⟨1, 0⟩, ⟨1, 7⟩, []⟩

def doItSite : Site :=
  ⟨.ofText "a.py".toList, "do_it".toList, [], ⟨2, 0⟩, ⟨2, 7⟩, []⟩

theorem pairSites_eq : pairSites = [magicSite, doItSite] := rfl

-- What the two directives come to, by default settings.
def magicPlan : Plan :=
  ⟨⟨.empty, .english⟩, 1057555471383730553, "gpt-4o".toList, magicKey⟩

def doItPlan : Plan :=
  ⟨⟨.empty, .english⟩, 5592379353981720894, "gpt-4o".toList, doItKey⟩

theorem plans_pair (client : Option Client) :
    List.Forall₂ (fun site plan => (Expander.mk .initial client).plan pair site = .ok plan)
      pairSites [magicPlan, doItPlan] := by
  have hmagic : Key.digest pair.content "magic".toList [] = magicDigest := by decide +kernel
  have hdoIt : Key.digest pair.content "do_it".toList [] = doItDigest := by decide +kernel
  have hseeds : (seedFor .empty magicDigest).toOption = some magicPlan.seed ∧
      (seedFor .empty doItDigest).toOption = some doItPlan.seed := by decide +kernel
  -- The digits of a key are spelled out first, since a literal is slow to take apart.
  have hmagicKey : Key.ofDigest magicDigest "gpt-4o".toList = magicKey := by
    have hdigits : magicKey = _ := String.toList_ofList
    rw [hdigits]
    decide +kernel
  have hdoItKey : Key.ofDigest doItDigest "gpt-4o".toList = doItKey := by
    have hdigits : doItKey = _ := String.toList_ofList
    rw [hdigits]
    decide +kernel
  have hinvocations : ∀ site ∈ pairSites,
      (Invocation.ofDirective site.entryPoint site.payload).toOption =
        some ⟨.empty, .english⟩ := by decide +kernel
  rw [pairSites_eq, List.forall_mem_cons, List.forall_mem_singleton] at hinvocations
  rw [pairSites_eq]
  refine .cons ?_ (.cons ?_ .nil)
  · exact plan_eq_ok (ok_of_toOption hinvocations.1) hmagic (ok_of_toOption hseeds.1) rfl hmagicKey
  · exact plan_eq_ok (ok_of_toOption hinvocations.2) hdoIt (ok_of_toOption hseeds.2) rfl hdoItKey

theorem plan_magic (client : Option Client) :
    (Expander.mk .initial client).plan pair magicSite = .ok magicPlan := by
  have hplans := plans_pair client
  rw [pairSites_eq] at hplans
  exact (List.forall₂_cons.mp hplans).1

-- Both keys have a record in the folder that the path will lead to.
def hiddenDesk : Desk :=
  ⟨⟨"/work".toList, .folder [("b".toList, .folder [(magicKey, .file (encode "old = 0\n".toList)),
    (doItKey, .file (encode "old = 0\n".toList))])]⟩, .ofFolder (.ofText "a/../b".toList), [], []⟩

def hiddenRun : Result (List Expansion) × Desk :=
  (pairSites.mapM ((answering "x = 1\n".toList).expand pair)).run hiddenDesk

-- The first store makes the folder `a`, and with it `a/../b` leads to `b`: neither directive had
-- a record, but only the first one is asked for, and its old record is overwritten.
theorem askedKeys_ne_due_hidden :
    pair.text = .ok "magic()\ndo_it()\n".toList ∧
      Directive.find pair.path "magic()\ndo_it()\n".toList = .ok pairSites ∧
      ∃ es, hiddenRun.1 = .ok es ∧ askedKeys es = [magicKey] ∧
        Cache.due hiddenDesk.cache.folder hiddenDesk.disk (es.map (·.key)) =
          [magicKey, doItKey] ∧
        Cache.record (.ofText "b".toList) hiddenDesk.disk magicKey = some "old = 0\n".toList ∧
        Cache.record (.ofText "b".toList) hiddenRun.2.disk magicKey = some "x = 1\n".toList := by
  have hmagic : magicKey = _ := String.toList_ofList
  have hdoIt : doItKey = _ := String.toList_ofList
  have hrun : hiddenRun = ((pairSites.zip [magicPlan, doItPlan]).mapM fun part =>
      (answering "x = 1\n".toList).follow pair part.1 part.2).run hiddenDesk := by
    rw [hiddenRun, mapM_expand_of_plans (answering _) (plans_pair _)]
  have hends : hiddenRun.1.toOption.map (fun es => (askedKeys es, es.map (·.key))) =
        some ([magicKey], [magicKey, doItKey]) ∧
      Cache.record (.ofText "b".toList) hiddenRun.2.disk magicKey = some "x = 1\n".toList := by
    rw [hrun]
    delta hiddenDesk magicPlan doItPlan
    rw [hmagic, hdoIt]
    decide +kernel
  have hdue : Cache.due hiddenDesk.cache.folder hiddenDesk.disk [magicKey, doItKey] =
      [magicKey, doItKey] := by
    delta hiddenDesk
    rw [hmagic, hdoIt]
    decide +kernel
  have hbefore : Cache.record (.ofText "b".toList) hiddenDesk.disk magicKey =
      some "old = 0\n".toList := by
    delta hiddenDesk
    rw [hmagic]
    decide +kernel
  obtain ⟨hkeys, hafter⟩ := hends
  obtain ⟨es, hes, hpair⟩ := Option.map_eq_some_iff.mp hkeys
  obtain ⟨hasked, hall⟩ := Prod.mk.inj hpair
  refine ⟨text_pair, find_pair, es, ok_of_toOption hes, hasked, ?_, hbefore, hafter⟩
  rw [hall, hdue]

end Ghostwriter
