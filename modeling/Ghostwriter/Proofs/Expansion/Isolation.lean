import Ghostwriter.Proofs.Cache.Twin
import Ghostwriter.Proofs.Directive.Cut
import Ghostwriter.Proofs.Expansion.Requests

/-!
Directives of one file do not influence each other. Two runs whose clients differ only in their
answers for one key send the same requests, and differ only in the code for this key.
-/

namespace Ghostwriter

open Ghostwriter.Text

-- What two runs agree on about a directive, whatever the answers for one key were.
structure Expansion.Alike (hidden : Text) (e e' : Expansion) : Prop where
  site : e'.site = e.site
  key : e'.key = e.key
  seed : e'.seed = e.seed
  model : e'.model = e.model
  cached : e'.cached = e.cached
  snippet : e.key ≠ hidden → e'.snippet = e.snippet

-- A text in which each directive has given way to what its code comes to there.
structure Spliced (whole : Text) (es : List Expansion) (bodies : List Text) (t : Text) : Prop where
  codes : List.Forall₂ (fun e body => Splice.body e.site e.snippet = .ok body) es bodies
  text : t = Splice.interleave (Splice.kept whole (es.map (·.site))) bodies

-- The client of another expander gives the answers that were given, but for one key.
def Visit.Repeated (v : Visit) (hidden : Text) (second : Expander) : Prop :=
  v.key? ≠ some hidden → ∀ request ∈ v.course.requests, ∀ client client',
    v.expander.clientOf = .ok client → second.clientOf = .ok client' →
    (client'.complete v.desk.sent request).1 = (client.complete v.desk.sent request).1

namespace Expander

variable {first second : Expander} {source : Source} {site : Site} {hidden : Text}
  {desk desk' after after' : Desk} {e e' : Expansion}

theorem alike_of_settled {plan : Plan} {unwraps : Bool} {text text' : Text}
    (h : plan.outcome unwraps site text e.cached = .ok e)
    (h' : plan.outcome unwraps site text' e'.cached = .ok e') (hcached : e'.cached = e.cached)
    (htext : plan.key ≠ hidden → text' = text) : e.Alike hidden e' := by
  obtain ⟨snippet, hsnippet, he⟩ := Plan.outcome_eq_ok_iff.mp h
  obtain ⟨snippet', hsnippet', he'⟩ := Plan.outcome_eq_ok_iff.mp h'
  rw [he, he']
  refine ⟨rfl, rfl, rfl, rfl, hcached, fun hne => ?_⟩
  rw [htext hne, hsnippet] at hsnippet'
  exact (Except.ok.inj hsnippet').symm

-- The clients give the same answer, unless it is for the hidden key.
theorem answer_eq {plan : Plan} {request : Request} {client client' : Client} {text text' : Text}
    (hplan : first.plan source site = .ok plan)
    (hrequests : (first.course source site desk).1.requests = [request])
    (hclient : first.clientOf = .ok client) (hclient' : second.clientOf = .ok client')
    (hanswer : (client.complete desk.sent request).1 = .ok text)
    (hanswer' : (client'.complete desk.sent request).1 = .ok text')
    (hrepeated : (⟨first, source, site, desk⟩ : Visit).Repeated hidden second)
    (hne : plan.key ≠ hidden) : text' = text := by
  have hkey : (⟨first, source, site, desk⟩ : Visit).key? ≠ some hidden := by
    simp [Visit.key?, hplan, Except.toOption, hne]
  have hsame := hrepeated hkey request (by simp [Visit.course, hrequests]) client client' hclient
    hclient'
  rw [hanswer', hanswer] at hsame
  exact Except.ok.inj hsame

-- One directive, expanded at two desks that differ at most in the text for the hidden key.
theorem alike_of_run (hsettings : second.settings = first.settings)
    (hfolder : desk'.cache.folder = desk.cache.folder) (hsent : desk'.sent = desk.sent)
    (htwins : Cache.Twins desk.cache.folder hidden desk.disk desk'.disk)
    (hrepeated : (⟨first, source, site, desk⟩ : Visit).Repeated hidden second)
    (h : (first.expand source site).run desk = (.ok e, after))
    (h' : (second.expand source site).run desk' = (.ok e', after')) :
    e.Alike hidden e' ∧ after'.sent = after.sent ∧
      after.cache.folder = desk.cache.folder ∧ after'.cache.folder = desk.cache.folder ∧
      Cache.Twins desk.cache.folder hidden after.disk after'.disk := by
  obtain ⟨plan, text, hplan, hsettled, hafter, horigin⟩ := comes_of_run h
  obtain ⟨plan', text', hplan', hsettled', hafter', horigin'⟩ := comes_of_run h'
  obtain rfl : plan = plan' := by
    have hplans : second.plan source site = first.plan source site := by
      unfold Expander.plan modelFor
      rw [hsettings]
    rw [hplans, hplan] at hplan'
    exact Except.ok.inj hplan'
  rw [hsettings] at hsettled'
  rw [hfolder] at hafter' horigin'
  rw [hsent] at horigin'
  have hkey := isKey_of_plan hplan
  have hsome := htwins.isSome_record hkey
  rcases horigin with ⟨hcached, hrecord, hdisk, hlast⟩ |
      ⟨hcached, hmissing, request, client, p, hrequests, hrequest, hclient, hanswer, hkept, hdisk,
        hlast⟩ <;>
    rcases horigin' with ⟨hcached', hrecord', hdisk', hlast'⟩ |
      ⟨hcached', hmissing', _, client', p', -, hrequest', hclient', hanswer', hkept', hdisk',
        hlast'⟩
  · refine ⟨alike_of_settled hsettled hsettled' (hcached'.trans hcached.symm) fun hne => ?_,
      hlast'.trans hlast.symm, hafter, hafter', by rwa [hdisk, hdisk']⟩
    rw [htwins.record hkey hne, hrecord] at hrecord'
    exact (Option.some.inj hrecord').symm
  · rw [Cache.record_of_missing hmissing', hrecord] at hsome
    cases hsome
  · rw [Cache.record_of_missing hmissing, hrecord'] at hsome
    cases hsome
  · obtain rfl := Except.ok.inj (hrequest'.symm.trans hrequest)
    have htext := answer_eq hplan hrequests hclient hclient' hanswer hanswer' hrepeated
    refine ⟨alike_of_settled hsettled hsettled' (hcached'.trans hcached.symm) htext,
      hlast'.trans hlast.symm, hafter, hafter', ?_⟩
    rw [hdisk, hdisk']
    by_cases hne : plan.key = hidden
    · subst hne
      rw [htwins.eq_of_missing hmissing] at hkept' ⊢
      exact Cache.twins_of_store hkey hmissing hkept hkept'
    · rw [htext hne] at hkept' ⊢
      exact htwins.store hkey hne hmissing hkept hkept'

theorem alike_of_run_mapM {sites : List Site} {es es' : List Expansion}
    (hsettings : second.settings = first.settings)
    (hfolder : desk'.cache.folder = desk.cache.folder) (hsent : desk'.sent = desk.sent)
    (htwins : Cache.Twins desk.cache.folder hidden desk.disk desk'.disk)
    (hrepeated : ∀ v ∈ first.visits source sites desk, v.Repeated hidden second)
    (h : (sites.mapM (first.expand source)).run desk = (.ok es, after))
    (h' : (sites.mapM (second.expand source)).run desk' = (.ok es', after')) :
    List.Forall₂ (Expansion.Alike hidden) es es' ∧ after'.sent = after.sent := by
  induction sites generalizing desk desk' es es' with
  | nil =>
    rw [Work.run_mapM_nil] at h h'
    cases h
    cases h'
    exact ⟨.nil, hsent⟩
  | cons site rest ih =>
    obtain ⟨e, middle, others, hsite, hrest, rfl⟩ := Work.run_mapM_cons_ok h
    obtain ⟨e', middle', others', hsite', hrest', rfl⟩ := Work.run_mapM_cons_ok h'
    simp only [visits, hsite, List.forall_mem_cons] at hrepeated
    obtain ⟨halike, hsent', hfolder₁, hfolder₂, htwins'⟩ :=
      alike_of_run hsettings hfolder hsent htwins hrepeated.1 hsite hsite'
    rw [← hfolder₁] at htwins' hfolder₂
    obtain ⟨hothers, hlast⟩ := ih hfolder₂ hsent' htwins' hrepeated.2 hrest hrest'
    exact ⟨.cons halike hothers, hlast⟩

theorem sites_of_run {expander : Expander} {sites : List Site} {es : List Expansion}
    (h : (sites.mapM (expander.expand source)).run desk = (.ok es, after)) :
    es.map (·.site) = sites := by
  induction sites generalizing desk es with
  | nil =>
    rw [Work.run_mapM_nil] at h
    cases h
    rfl
  | cons site rest ih =>
    obtain ⟨e, middle, others, hsite, hrest, rfl⟩ := Work.run_mapM_cons_ok h
    obtain ⟨plan, text, hcomes⟩ := comes_of_run hsite
    obtain ⟨snippet, -, he⟩ := Plan.outcome_eq_ok_iff.mp hcomes.settled
    rw [List.map_cons, ih hrest, he]

theorem spliced_of_substituteAll {whole t : Text} {es : List Expansion}
    (hcut : Splice.Cut [] (es.map (·.site)) whole)
    (h : Splice.substituteAll whole (es.map fun e => (e.site, e.snippet)) = .ok t) :
    ∃ bodies, Spliced whole es bodies t := by
  have hsites : (es.map fun e => (e.site, e.snippet)).map Prod.fst = es.map (·.site) := by
    simp
  obtain ⟨bodies, hbodies⟩ := Splice.bodies_of_substituteAll h
  have heq := Splice.substituteAll_eq (hsites ▸ hcut) hbodies
  rw [h, hsites] at heq
  exact ⟨bodies, List.forall₂_map_left_iff.mp hbodies, Except.ok.inj heq⟩

theorem bodies_eq {whole t t' : Text} {es es' : List Expansion} {bodies bodies' : List Text}
    (halike : List.Forall₂ (Expansion.Alike hidden) es es') (hspliced : Spliced whole es bodies t)
    (hspliced' : Spliced whole es' bodies' t') {n : Nat} {e : Expansion} (he : es[n]? = some e)
    (hne : e.key ≠ hidden) : bodies'[n]? = bodies[n]? := by
  have hbodies := hspliced.codes
  have hbodies' := hspliced'.codes
  clear hspliced hspliced'
  induction halike generalizing n bodies bodies' with
  | nil => simp at he
  | cons hfirst _ ih =>
    cases hbodies with
    | cons hbody hrest =>
      cases hbodies' with
      | cons hbody' hrest' =>
        cases n with
        | zero =>
          simp only [List.getElem?_cons_zero, Option.some.injEq] at he ⊢
          subst he
          rw [hfirst.site, hfirst.snippet hne, hbody] at hbody'
          exact (Except.ok.inj hbody').symm
        | succ n =>
          simp only [List.getElem?_cons_succ] at he ⊢
          exact ih he hrest hrest'

-- Two runs on a source, with the same settings and from the same desk, whose clients differ only in
-- their answers for one key. If both succeed they send the same requests, expand every directive
-- alike, the code for that key apart, and end with the same text around the same places, where only
-- directives with that key have come to be something else.
theorem expandSource_apart (first second : Expander) (source : Source) (desk after after' : Desk)
    (hidden t t' : Text) (es es' : List Expansion) (hsettings : second.settings = first.settings)
    (hrepeated : ∀ v ∈ first.visitsOfSource source desk, v.Repeated hidden second)
    (h : (first.expandSource source).run desk = (.ok (t, es), after))
    (h' : (second.expandSource source).run desk = (.ok (t', es'), after')) :
    after'.sent = after.sent ∧ List.Forall₂ (Expansion.Alike hidden) es es' ∧
      ∃ whole bodies bodies', source.text = .ok whole ∧
        Spliced whole es bodies t ∧ Spliced whole es' bodies' t' ∧
        es'.map (·.site) = es.map (·.site) ∧
        ∀ (n : Nat) (e : Expansion), es[n]? = some e → e.key ≠ hidden → bodies'[n]? = bodies[n]? := by
  obtain ⟨whole, sites, hwhole, hfind, hrun, hsplice⟩ := run_expandSource_ok h
  obtain ⟨whole', sites', hwhole', hfind', hrun', hsplice'⟩ := run_expandSource_ok h'
  obtain rfl := Except.ok.inj (hwhole'.symm.trans hwhole)
  obtain rfl := Except.ok.inj (hfind'.symm.trans hfind)
  have hvisits : first.visitsOfSource source desk = first.visits source sites' desk := by
    simp [visitsOfSource, hwhole, hfind]
  rw [hvisits] at hrepeated
  obtain ⟨halike, hsent⟩ := alike_of_run_mapM hsettings rfl rfl (.inl rfl) hrepeated hrun hrun'
  have hsites := sites_of_run hrun
  have hsites' := sites_of_run hrun'
  have hcut := Directive.cut_find hfind
  obtain ⟨bodies, hspliced⟩ := spliced_of_substituteAll (hsites ▸ hcut) hsplice
  obtain ⟨bodies', hspliced'⟩ := spliced_of_substituteAll (hsites' ▸ hcut) hsplice'
  exact ⟨hsent, halike, whole', bodies, bodies', hwhole, hspliced, hspliced',
    hsites'.trans hsites.symm, fun n e he hne => bodies_eq halike hspliced hspliced' he hne⟩

-- An expander whose client gives an answer of its own at first.
def beginning (answer others : Text) : Expander :=
  ⟨.initial, some (.direct fun earlier _ => .ok (if earlier.isEmpty then answer else others))⟩

-- Where no other key is asked for first, the first answer is for the hidden key.
theorem repeated_beginning {answer others : Text}
    (h : ∀ v ∈ (answering others).visitsOfSource source desk,
      v.key? = some hidden ∨ v.desk.sent.isEmpty = false) :
    ∀ v ∈ (answering others).visitsOfSource source desk,
      v.Repeated hidden (beginning answer others) := by
  intro v hv hkey request _ client client' hclient hclient'
  rw [expander_of_mem_visitsOfSource hv] at hclient
  cases hclient
  cases hclient'
  simp [Client.complete, (h v hv).resolve_left hkey]

-- What a run on a source comes to, told from the code for its sites.
theorem run_expandSource_of_codes {expander : Expander} {whole : Text} {sites : List Site}
    {es : List Expansion} {bodies : List Text} (hwhole : source.text = .ok whole)
    (hfind : Directive.find source.path whole = .ok sites)
    (hrun : (sites.mapM (expander.expand source)).run desk = (.ok es, after))
    (hcodes : es.map (fun e => (Splice.body e.site e.snippet).toOption) = bodies.map some) :
    (expander.expandSource source).run desk =
      (.ok (Splice.interleave (Splice.kept whole sites) bodies, es), after) := by
  have hbodies : List.Forall₂ (fun r body => Splice.body r.1 r.2 = .ok body)
      (es.map fun e => (e.site, e.snippet)) bodies := by
    rw [← List.forall₂_eq_eq_eq, List.forall₂_map_left_iff, List.forall₂_map_right_iff] at hcodes
    rw [List.forall₂_map_left_iff]
    exact hcodes.imp fun _ _ h => ok_of_toOption h
  have hsites : (es.map fun e => (e.site, e.snippet)).map Prod.fst = sites := by
    rw [List.map_map]
    exact sites_of_run hrun
  rw [run_expandSource hwhole hfind, hrun]
  simp only
  rw [Splice.substituteAll_eq (hsites ▸ Directive.cut_find hfind) hbodies, hsites]
  rfl

def codesOfPair (expander : Expander) : Option (List (Option Text)) :=
  ((pairSites.mapM (expander.expand pair)).run emptyDesk).1.toOption.map
    (List.map fun e => (Splice.body e.site e.snippet).toOption)

theorem run_pair {expander : Expander} {bodies : List Text}
    (h : codesOfPair expander = some (bodies.map some)) :
    ∃ es after, (expander.expandSource pair).run emptyDesk =
      (.ok (Splice.interleave (Splice.kept "magic()\ndo_it()\n".toList pairSites) bodies, es),
        after) := by
  unfold codesOfPair at h
  cases hrun : (pairSites.mapM (expander.expand pair)).run emptyDesk with
  | mk results after =>
    rw [hrun] at h
    obtain ⟨es, hresult, hcodes⟩ := Option.map_eq_some_iff.mp h
    obtain rfl : results = .ok es := ok_of_toOption hresult
    exact ⟨es, after, run_expandSource_of_codes text_pair find_pair hrun hcodes⟩

-- The first of two directives comes to be something else, in another number of lines.
theorem expandSource_apart_pair :
    ∃ es es' after after',
      ((answering "x = 1\n".toList).expandSource pair).run emptyDesk =
        (.ok ("x = 1\nx = 1\n".toList, es), after) ∧
      ((beginning "y = 2\nz = 3\n".toList "x = 1\n".toList).expandSource pair).run emptyDesk =
        (.ok ("y = 2\nz = 3\nx = 1\n".toList, es'), after') ∧
      after'.sent = after.sent ∧ List.Forall₂ (Expansion.Alike magicKey) es es' := by
  have hcodes : codesOfPair (answering "x = 1\n".toList) =
      some (["x = 1".toList, "x = 1".toList].map some) := by
    rw [codesOfPair, mapM_expand_of_plans (answering _) (plans_pair _)]
    decide +kernel
  have hcodes' : codesOfPair (beginning "y = 2\nz = 3\n".toList "x = 1\n".toList) =
      some (["y = 2\nz = 3".toList, "x = 1".toList].map some) := by
    rw [codesOfPair, mapM_expand_of_plans (beginning _ _) (plans_pair _)]
    decide +kernel
  have hasked : (((answering "x = 1\n".toList).expand pair magicSite).run
      emptyDesk).2.sent.isEmpty = false := by
    unfold answering
    rw [expand_of_plan (plan_magic _)]
    decide +kernel
  obtain ⟨es, after, hrun⟩ := run_pair hcodes
  obtain ⟨es', after', hrun'⟩ := run_pair hcodes'
  have hhidden : ∀ v ∈ (answering "x = 1\n".toList).visitsOfSource pair emptyDesk,
      v.key? = some magicKey ∨ v.desk.sent.isEmpty = false := by
    intro v hv
    simp only [visitsOfSource, text_pair, find_pair, pairSites_eq, mem_visits_cons] at hv
    rcases hv with rfl | ⟨e, last, hfirst, rfl | ⟨_, _, _, hnone⟩⟩
    · exact .inl (Visit.key_of_plan (v := ⟨answering _, pair, magicSite, emptyDesk⟩) (plan_magic _))
    · rw [hfirst] at hasked
      exact .inr hasked
    · cases hnone
  obtain ⟨hsent, halike, -⟩ := expandSource_apart (answering "x = 1\n".toList)
    (beginning "y = 2\nz = 3\n".toList "x = 1\n".toList) pair emptyDesk _ _ magicKey _ _ _ _ rfl
    (repeated_beginning hhidden) hrun hrun'
  exact ⟨es, es', after, after', hrun, hrun', hsent, halike⟩

end Expander

end Ghostwriter
