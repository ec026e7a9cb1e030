import SearchAnnotation.Proofs.AgreeingViews
import SearchAnnotation.Proofs.KeyTexts
import SearchAnnotation.Proofs.LastOccurrences
import SearchAnnotation.Proofs.ReferenceResults
import SearchAnnotation.Proofs.ViewCourses

/-!
# Results whose ids meet

Built results have different addresses, but an id has only the display text of an address. So two
of them have one id exactly if the address of one is the text that shows the address of the other,
which is no string. Of results with one id a saving leaves just the last. The first view of a query
shows all results, and every later one those that are left: as many as there are ids, and so all of
them exactly if no address spells another.
-/

namespace SearchAnnotation

namespace Store

variable {store saved : Store} {qid : String} {results : List SearchResult}

/-- After a row is put there are that row and those with other ids. -/
theorem mem_upsert_iff {row other : ResultRow} {rows : List ResultRow}
    (keyed : (idsOf rows).Nodup) :
    other ∈ upsert row rows ↔ other = row ∨ other ∈ rows ∧ other.id ≠ row.id := by
  constructor
  · intro hm
    by_cases hid : other.id = row.id
    · exact .inl (eq_of_id_eq (nodup_idsOf_upsert row keyed) hm (mem_upsert_self row rows) hid)
    · exact (eq_or_mem_of_mem_upsert hm).imp_right fun hold => ⟨hold, hid⟩
  · rintro (rfl | ⟨hold, hid⟩)
    · exact mem_upsert_self other rows
    · exact mem_upsert_of_ne hold hid

/-- After rows are put there are the last ones of their ids, and those with none of these ids. -/
theorem mem_upsertAll_iff {other : ResultRow} {rows fresh : List ResultRow}
    (keyed : (idsOf rows).Nodup) : other ∈ upsertAll rows fresh ↔
      other ∈ lastOf ResultRow.id fresh ∨ other ∈ rows ∧ other.id ∉ idsOf fresh := by
  -- The first row is put into the table, and is the one of its id there until a later row has it.
  induction fresh generalizing rows with
  | nil => exact ⟨fun hm => .inr ⟨hm, List.not_mem_nil⟩, fun hm => hm.elim nofun And.left⟩
  | cons row rest ih =>
    rw [upsertAll_cons, ih (nodup_idsOf_upsert row keyed), mem_upsert_iff keyed, mem_lastOf_cons,
      idsOf, idsOf, List.map_cons, List.mem_cons, not_or]
    by_cases hrow : other = row
    · subst hrow
      tauto
    · tauto

/-- Each row that is written goes with its result. -/
theorem forall₂_written (rows : List ResultRow) (qid : String) (results : List SearchResult) :
    List.Forall₂ (fun row result => ∃ among, row = rowFor among qid result)
      (written rows qid results) results := by
  induction results generalizing rows with
  | nil => exact .nil
  | cons result rest ih => exact .cons ⟨rows, rfl⟩ (ih _)

/-- The rows of a query without rows are, after results are saved for it, the last ones of each id
that were written. -/
theorem rowsOf_of_save_lastOf (keyed : store.Keyed) (uncached : store.rowsOf qid = [])
    (h : View.save store qid results = .ok saved) :
    (saved.rowsOf qid).Perm (lastOf ResultRow.id (written store.results qid results)) := by
  have hsaved : (saved.rowsOf qid).Nodup := (keyed_of_save keyed h).of_map.filter _
  have hnew : (lastOf ResultRow.id (written store.results qid results)).Nodup :=
    (nodup_key_lastOf ResultRow.id _).of_map
  refine (List.perm_ext_iff_of_nodup hsaved hnew).mpr fun row => ?_
  rw [mem_rowsOf, results_of_save h, mem_upsertAll_iff keyed]
  constructor
  · rintro ⟨hm | ⟨hold, -⟩, hqid⟩
    · exact hm
    · have hrow : row ∈ store.rowsOf qid := mem_rowsOf.mpr ⟨hold, hqid⟩
      rw [uncached] at hrow
      cases hrow
  · intro hm
    have hwritten := (lastOf_sublist ResultRow.id _).subset hm
    exact ⟨.inl hm, qid_of_mem_written hwritten⟩

/-- Results that can be stored share ids just where they share keys. -/
theorem lastOf_key_eq (storable : ∀ result ∈ results, result.Storable) :
    lastOf SearchResult.key results = lastOf SearchResult.id results := by
  refine lastOf_congr fun a ha b hb => ?_
  rw [SearchResult.id_eq_key (storable a ha).text, SearchResult.id_eq_key (storable b hb).text,
    Name.text.injEq]

/-- The last rows that are written are those of the last results. -/
theorem forall₂_lastOf_written (rows : List ResultRow) (qid : String)
    (storable : ∀ result ∈ results, result.Storable) :
    List.Forall₂ (fun row result => ∃ among, row = rowFor among qid result)
      (lastOf ResultRow.id (written rows qid results)) (lastOf SearchResult.id results) := by
  rw [← lastOf_key_eq storable]
  refine lastOf_forall₂ ?_ (forall₂_written rows qid results)
  rintro row result row' result' ⟨among, rfl⟩ ⟨among', rfl⟩
  rw [id_rowFor, id_rowFor]

/-- The original ranks of the rows that are written are those of the results. -/
theorem ranks_written (rows : List ResultRow) (qid : String) (results : List SearchResult) :
    (written rows qid results).map ResultRow.origRank = results.map SearchResult.origRank := by
  induction results generalizing rows with
  | nil => rfl
  | cons result rest ih => rw [written, List.map_cons, List.map_cons, ih, origRank_rowFor]

/-- Rows of results that can be stored are read back as what is kept of them. -/
theorem exists_mapM_toResult {rows : List ResultRow}
    (goes : List.Forall₂ (fun row result => ∃ among, row = rowFor among qid result) rows results)
    (storable : ∀ result ∈ results, result.Storable)
    (settled : ∀ result ∈ results, result.webpage.Settled) :
    ∃ shown, rows.mapM ResultRow.toResult = .ok shown ∧
      List.Forall₂ (fun result shown => ∃ among, shown = kept among result) results shown := by
  induction goes with
  | nil => exact ⟨[], rfl, .nil⟩
  | @cons row result rows results hrow _ ih =>
    obtain ⟨among, rfl⟩ := hrow
    obtain ⟨hresult, hrest⟩ := List.forall_mem_cons.mp storable
    obtain ⟨hpage, hpages⟩ := List.forall_mem_cons.mp settled
    obtain ⟨shown, hshown, hgoes⟩ := ih hrest hpages
    refine ⟨kept among result :: shown, ?_, .cons ⟨among, rfl⟩ hgoes⟩
    rw [List.mapM_cons, toResult_rowFor hresult hpage, hshown]
    rfl

/-- What is read back for a query without rows, after results are saved for it, goes with the last
results of each id. -/
theorem resultsOf_of_save_lastOf (keyed : store.Keyed) (uncached : store.rowsOf qid = [])
    (arranged : SearchResult.Arranged results) (h : View.save store qid results = .ok saved) :
    ∃ shown, saved.resultsOf qid = .ok shown ∧
      List.Forall₂ (fun result shown => ∃ among, shown = kept among result)
        (lastOf SearchResult.id results) shown := by
  have hstorable := (save_eq_ok.mp h).1
  have hsub := (lastOf_sublist SearchResult.id results).subset
  have hincrease : (lastOf ResultRow.id (written store.results qid results)).Pairwise
      fun a b => a.origRank < b.origRank := by
    refine List.Pairwise.sublist (lastOf_sublist _ _) (List.pairwise_map.mp ?_)
    rw [ranks_written]
    exact List.pairwise_map.mpr arranged.increase
  rw [resultsOf_eq_byRank, byRank_eq_of_perm (rowsOf_of_save_lastOf keyed uncached h) hincrease]
  exact exists_mapM_toResult (forall₂_lastOf_written store.results qid hstorable)
    (fun result hm => hstorable result (hsub hm)) fun result hm => arranged.settled result (hsub hm)

/-- Results whose documents no row holds, and of which no later one holds what an earlier one has,
get rows of their own. -/
theorem written_of_new {rows : List ResultRow}
    (apart : results.Pairwise fun a b =>
      (ResultRow.ofResult qid a).holds b.webpage.toDocument = false)
    (new : ∀ result ∈ results, ∀ row ∈ rows, row.id = result.key →
      row.holds result.webpage.toDocument = false) :
    written rows qid results = results.map (ResultRow.ofResult qid) := by
  induction results generalizing rows with
  | nil => rfl
  | cons result rest ih =>
    obtain ⟨hresult, hrest⟩ := List.pairwise_cons.mp apart
    obtain ⟨hnew, hlater⟩ := List.forall_mem_cons.mp new
    rw [written, List.map_cons, rowFor_of_new hnew, ih hrest]
    intro other hm row hrow hid
    rcases eq_or_mem_of_mem_upsert hrow with rfl | hold
    · exact hresult other hm
    · exact hlater other hm row hold hid

/-- Where no row has one of their ids, the last results of each id are read back as from text. -/
theorem resultsOf_of_save_new (keyed : store.Keyed) (uncached : store.rowsOf qid = [])
    (arranged : SearchResult.Arranged results) (h : View.save store qid results = .ok saved)
    (apart : results.Pairwise fun a b =>
      (ResultRow.ofResult qid a).holds b.webpage.toDocument = false)
    (new : ∀ row ∈ store.results, (row.id : Name) ∉ results.map SearchResult.id) :
    saved.resultsOf qid = .ok ((lastOf SearchResult.id results).map SearchResult.reread) := by
  have hstorable := (save_eq_ok.mp h).1
  have hsub := lastOf_sublist SearchResult.id results
  have hrows : written store.results qid results = results.map (ResultRow.ofResult qid) := by
    refine written_of_new apart fun result hm row hrow hid => ?_
    refine absurd ?_ (new row hrow)
    rw [hid, ← SearchResult.id_eq_key (hstorable result hm).text]
    exact List.mem_map_of_mem hm
  have hlast : lastOf ResultRow.id (written store.results qid results) =
      (lastOf SearchResult.id results).map (ResultRow.ofResult qid) := by
    rw [hrows, lastOf_map, ← lastOf_key_eq hstorable]
    rfl
  have hperm := rowsOf_of_save_lastOf keyed uncached h
  rw [hlast] at hperm
  refine resultsOf_of_perm hperm (arranged.increase.sublist hsub) fun result hm => ?_
  have hresult := hstorable result (hsub.subset hm)
  exact ResultRow.toResult_ofResult hresult.text hresult.writable
    (arranged.settled result (hsub.subset hm))

end Store

namespace Value

theorem toNat_injective : Function.Injective Char.toNat := fun _ _ h => Char.toNat_inj.mp h

/-- What is no string is shown by its display text. -/
theorem displayCodes_of_not_isString {v : Value} (h : v.isString = false) :
    v.displayCodes = v.display.map Char.toNat := by
  cases v with
  | unpaired u => cases h
  | _ => rfl

/-- The text that shows what is no string is shown alike. -/
theorem displayCodes_displayString {v : Value} (h : v.isString = false) :
    (Value.text v.displayString).displayCodes = v.displayCodes := by
  rw [displayCodes_of_not_isString h, displayCodes, display, displayString, String.toList_ofList]
  intro u hu
  cases hu

/-- A plain key that is no string with surrogates comes back as it is. -/
theorem reread_of_isKey {v : Value} (key : v.isKey = true) (paired : ∀ u, v ≠ .unpaired u)
    (plain : v.IsPlain) : v.reread = v := by
  cases v with
  | float x =>
    cases hnan : x.isNaN with
    | true => rw [reread, if_pos hnan, plain x rfl hnan]
    | false => simp only [reread, hnan, Bool.false_eq_true, if_false]
  | unpaired u => exact absurd rfl (paired u)
  | list items => cases key
  | object fields => cases key
  | _ => rfl

end Value

namespace SearchResult

/-- Whether the address of one result is the text that shows the address of another, which is no
string. -/
def Spells (a b : SearchResult) : Prop :=
  b.webpage.url.isString = false ∧ a.webpage.url = .text b.webpage.url.displayString

instance (a b : SearchResult) : Decidable (Spells a b) := inferInstanceAs (Decidable (_ ∧ _))

/-- Whether the address of no result spells that of another. -/
def Unspelled (results : List SearchResult) : Prop :=
  ∀ a ∈ results, ∀ b ∈ results, ¬Spells a b

instance (results : List SearchResult) : Decidable (Unspelled results) :=
  inferInstanceAs (Decidable (∀ a ∈ results, ∀ b ∈ results, ¬Spells a b))

variable {qid : Name} {records : List Value} {results : List SearchResult}

/-- Built results with one address are one. -/
theorem eq_of_url_eq (h : build qid records = .ok results) {a b : SearchResult} (ha : a ∈ results)
    (hb : b ∈ results) (he : a.webpage.url = b.webpage.url) : a = b := by
  have hnodup : (results.map fun result => result.webpage.url).Nodup := by
    refine List.pairwise_map.mpr ((addresses_of_buildFrom h).2.imp ?_)
    intro a b hapart he
    rw [he, sameAddress, beq_self_eq_true, Bool.true_or] at hapart
    cases hapart
  exact List.inj_on_of_nodup_map hnodup ha hb he

/-- A result that spells another has its id. -/
theorem Spells.id_eq {a b : SearchResult} (h : Spells a b)
    (ha : a.id = resultId qid a.webpage.url) (hb : b.id = resultId qid b.webpage.url) :
    a.id = b.id := by
  rw [ha, hb, resultId_eq_iff, h.2, Value.displayCodes_displayString h.1]

/-- Two built results have one id exactly if they are one or the address of one spells that of the
other. -/
theorem id_eq_iff (h : build qid records = .ok results)
    (plain : ∀ result ∈ results, result.webpage.url.IsPlain) {a b : SearchResult}
    (ha : a ∈ results) (hb : b ∈ results) : a.id = b.id ↔ a = b ∨ Spells a b ∨ Spells b a := by
  have hida := (isBuilt_of_mem_buildFrom h ha).id_eq
  have hidb := (isBuilt_of_mem_buildFrom h hb).id_eq
  constructor
  · intro hid
    rw [hida, hidb, resultId_eq_iff] at hid
    -- Two strings are the same, and so are two keys that are none; else the string is the speller.
    cases hstring : a.webpage.url.isString <;> cases hstring' : b.webpage.url.isString
    · refine .inl (eq_of_url_eq h ha hb ?_)
      rw [Value.displayCodes_of_not_isString hstring,
        Value.displayCodes_of_not_isString hstring'] at hid
      exact Value.eq_of_display (isBuilt_of_mem_buildFrom h ha).key
        (isBuilt_of_mem_buildFrom h hb).key hstring hstring' (plain a ha) (plain b hb)
        (List.map_injective_iff.mpr Value.toNat_injective hid)
    · refine .inr (.inr ⟨hstring, Value.eq_of_displayCodes hstring' rfl ?_⟩)
      rw [Value.displayCodes_displayString hstring, hid]
    · refine .inr (.inl ⟨hstring', Value.eq_of_displayCodes hstring rfl ?_⟩)
      rw [Value.displayCodes_displayString hstring', hid]
    · exact .inl (eq_of_url_eq h ha hb (Value.eq_of_displayCodes hstring hstring' hid))
  · rintro (rfl | hspells | hspells)
    · rfl
    · exact hspells.id_eq hida hidb
    · exact (hspells.id_eq hidb hida).symm

/-- The ids of built results differ exactly if no address spells another. -/
theorem nodup_ids_iff (h : build qid records = .ok results)
    (plain : ∀ result ∈ results, result.webpage.url.IsPlain) :
    (results.map SearchResult.id).Nodup ↔ Unspelled results := by
  constructor
  · intro distinct a ha b hb hspells
    have hid : a.id = b.id := (id_eq_iff h plain ha hb).mpr (.inr (.inl hspells))
    obtain rfl : a = b := List.inj_on_of_nodup_map distinct ha hb hid
    obtain ⟨hnot, htext⟩ := hspells
    rw [htext] at hnot
    cases hnot
  · intro unspelled
    refine List.pairwise_map.mpr ((ranks_increase_of_build h).imp_of_mem ?_)
    intro a b ha hb hlt hid
    rcases (id_eq_iff h plain ha hb).mp hid with rfl | hspells | hspells
    · exact Int.lt_irrefl _ hlt
    · exact unspelled a ha b hb hspells
    · exact unspelled b hb a ha hspells

/-- No row of a built result holds the document of a later one. -/
theorem apart_of_build {qid : String} (h : build qid records = .ok results)
    (plain : ∀ result ∈ results, result.webpage.url.IsPlain)
    (storable : ∀ result ∈ results, result.Storable) :
    results.Pairwise fun a b => (ResultRow.ofResult qid a).holds b.webpage.toDocument = false := by
  refine (addresses_of_buildFrom h).2.imp_of_mem ?_
  intro a b ha hb apart
  have hbuilt := isBuilt_of_mem_buildFrom h ha
  have hlater := isBuilt_of_mem_buildFrom h hb
  have hurl : a.webpage.url.reread = a.webpage.url :=
    Value.reread_of_isKey hbuilt.key (hbuilt.hasTextId_iff.mp (storable a ha).text) (plain a ha)
  by_contra hholds
  have halike := ResultRow.url_of_holds hlater.settled (Bool.not_eq_false _ ▸ hholds)
    (ResultRow.toResult_ofResult (storable a ha).text (storable a ha).writable hbuilt.settled)
  have hreread : a.reread.webpage.url = a.webpage.url := hurl
  rw [hreread, Value.alike_of_isKey hlater.key] at halike
  exact Bool.eq_false_iff.mp apart halike

end SearchResult

namespace View

variable {qid : String} {records : List Value} {results : List SearchResult}

theorem length_page (frame : Frame) (results : List SearchResult) :
    (frame.page results).results.length = results.length := List.length_mergeSort results

/-- What becomes of the results that were built for a query. -/
structure Accounted (qid : String) (results : List SearchResult) : Prop where
  /-- Two of them have one id just if the address of one spells that of the other. -/
  meet_iff : ∀ a ∈ results, ∀ b ∈ results, a.id = b.id ↔ a = b ∨ a.Spells b ∨ b.Spells a
  /-- The ids differ just if no address spells another. -/
  distinct_iff : (results.map SearchResult.id).Nodup ↔ SearchResult.Unspelled results
  /-- They can be saved just if the ids are texts, the documents have JSON texts and the ranks fit,
  into whatever store. -/
  saved_iff : ∀ store : Store, (∃ saved, save store qid results = .ok saved) ↔
    (∀ result ∈ results, result.hasTextId = true) ∧
      (∀ result ∈ results, Json.isWritable result.webpage.toDocument = true) ∧
      results.length ≤ 9223372036854775808
  /-- A query without rows gets as many as there are ids: one for each result just if no address
  spells another. -/
  stored : ∀ store saved : Store, store.Keyed → store.rowsOf qid = [] →
    save store qid results = .ok saved →
      (saved.rowsOf qid).length = (results.map SearchResult.id).toFinset.card ∧
        ((saved.rowsOf qid).length = results.length ↔ SearchResult.Unspelled results)
  /-- The view that finds and saves them shows all. -/
  first_view : ∀ {σ : Type} (provider : Provider σ) (store saved : Store) (state later : σ)
    (frame : Frame), frame? store qid = some frame → store.rowsOf qid = [] →
      fetch provider frame.query state = (.ok results, later) → save store qid results = .ok saved →
      load provider qid store state = (.ok (.found (frame.page results)), saved, later)
  /-- A view after that shows what is kept of the last one of each id, which is all of them just if
  no address spells another. If no row had any of the ids before, each comes back from its text. -/
  later_view : ∀ {σ : Type} (provider : Provider σ) (store saved : Store) (state : σ)
    (frame : Frame), frame? store qid = some frame → store.Keyed → store.rowsOf qid = [] →
      save store qid results = .ok saved → results ≠ [] →
      ∃ shown, load provider qid saved state = (.ok (.found (frame.page shown)), saved, state) ∧
        List.Forall₂ (fun result shown => ∃ rows, shown = Store.kept rows result)
          (lastOf SearchResult.id results) shown ∧
        ((∀ row ∈ store.results, (row.id : Name) ∉ results.map SearchResult.id) →
          shown = (lastOf SearchResult.id results).map SearchResult.reread) ∧
        ((frame.page shown).results.length = (frame.page results).results.length ↔
          SearchResult.Unspelled results)

/-- Results that were built from plain addresses are accounted for. -/
theorem accounted_of_build (h : SearchResult.build qid records = .ok results)
    (plain : ∀ result ∈ results, result.webpage.url.IsPlain) : Accounted qid results := by
  have hdistinct : (results.map SearchResult.id).Nodup ↔ SearchResult.Unspelled results :=
    SearchResult.nodup_ids_iff h plain
  have harranged : SearchResult.Arranged results := SearchResult.arranged_of_build h
  constructor
  case meet_iff => exact fun a ha b hb => SearchResult.id_eq_iff h plain ha hb
  case distinct_iff => exact hdistinct
  case saved_iff =>
    intro store
    rw [← SearchResult.storable_of_build h]
    simp only [Store.save_eq_ok, exists_and_left, exists_eq, and_true]
  case stored =>
    intro store saved keyed uncached hsave
    have hrows : (saved.rowsOf qid).length = (lastOf SearchResult.id results).length := by
      rw [(Store.rowsOf_of_save_lastOf keyed uncached hsave).length_eq]
      exact (Store.forall₂_lastOf_written store.results qid (Store.save_eq_ok.mp hsave).1).length_eq
    rw [hrows, length_lastOf_iff, length_lastOf]
    exact ⟨rfl, hdistinct⟩
  case first_view =>
    intro σ provider store saved state later frame hframe uncached found hsave
    exact load_of_fetch hframe uncached found hsave
  case later_view =>
    intro σ provider store saved state frame hframe keyed uncached hsave nonempty
    obtain ⟨shown, hread, hkept⟩ := Store.resultsOf_of_save_lastOf keyed uncached harranged hsave
    have hlength : shown.length = (lastOf SearchResult.id results).length := hkept.length_eq.symm
    have hsome : shown ≠ [] := by
      intro hnone
      rw [hnone] at hread
      exact Store.rowsOf_ne_nil_of_save nonempty hsave (Store.resultsOf_eq_nil.mp hread)
    have hframe' : frame? saved qid = some frame := by
      obtain ⟨-, rfl⟩ := Store.save_eq_ok.mp hsave
      exact hframe
    refine ⟨shown, load_of_cached provider state hframe' hread hsome, hkept, fun new => ?_, ?_⟩
    · have happart := SearchResult.apart_of_build h plain (Store.save_eq_ok.mp hsave).1
      have hnew := Store.resultsOf_of_save_new keyed uncached harranged hsave happart new
      exact Except.ok.inj (hread.symm.trans hnew)
    · rw [length_page, length_page, hlength, length_lastOf_iff, hdistinct]

/-- Addresses of four kinds, none the text that shows another. -/
def kinds : List Value := [.float .nan, .text "NaN", .int 1, .null]

/-- The results of these addresses. -/
def kindResults : List SearchResult := kinds.mapIdx fun i url => Room.twin url i

/-- A store that has one query and nothing else. -/
def unfilled : Store := ⟨[⟨"q", "x"⟩], [], []⟩

/-- The four results have different ids, and a row is stored for each. -/
theorem kinds_accounted :
    SearchResult.build "q" (kinds.map SearchResult.soleRecord) = .ok kindResults ∧
      (∀ result ∈ kindResults, result.webpage.url.IsPlain) ∧
      (kindResults.map SearchResult.id).Nodup ∧
      ∃ saved, save unfilled "q" kindResults = .ok saved ∧ (saved.rowsOf "q").length = 4 := by
  have hbuild : SearchResult.build "q" (kinds.map SearchResult.soleRecord) = .ok kindResults := by
    decide +kernel
  have hplain : ∀ result ∈ kindResults, result.webpage.url.IsPlain := by
    have hurls : ∀ url ∈ kinds, url.IsPlain := by
      simp only [kinds, List.forall_mem_cons, List.not_mem_nil, false_implies, implies_true,
        and_true]
      refine ⟨?_, nofun, nofun, nofun⟩
      rintro x ⟨⟩ -
      rfl
    intro result hm
    obtain ⟨i, hi, rfl⟩ := List.mem_mapIdx.mp hm
    exact hurls _ (List.getElem_mem hi)
  have hunspelled : SearchResult.Unspelled kindResults := by decide +kernel
  have haccounted : Accounted "q" kindResults := accounted_of_build hbuild hplain
  obtain ⟨saved, hsave⟩ := (haccounted.saved_iff unfilled).mpr (by decide +kernel)
  refine ⟨hbuild, hplain, haccounted.distinct_iff.mpr hunspelled, saved, hsave, ?_⟩
  exact (haccounted.stored unfilled saved (by decide) rfl hsave).2.mpr hunspelled

/-- The same store after a view has saved two results with one id. -/
def refilled : Store :=
  { unfilled with results := [ResultRow.ofResult "q" (Room.twin (.text "1") 1)] }

/-- The address of the second result spells that of the first. Both have one id, one row is stored
for them, and the second view shows only one of them. -/
theorem spelled_result_is_lost :
    SearchResult.build "q" [SearchResult.soleRecord (.int 1), SearchResult.soleRecord (.text "1")] =
        .ok [Room.twin (.int 1) 0, Room.twin (.text "1") 1] ∧
      (Room.twin (.int 1) 0).id = (Room.twin (.text "1") 1).id ∧
      load Room.twins "q" unfilled () = (.ok (.found (Room.soleFrame.page
        [Room.twin (.int 1) 0, Room.twin (.text "1") 1])), refilled, ()) ∧
      (refilled.rowsOf "q").length = 1 ∧
      load Room.twins "q" refilled () =
        (.ok (.found (Room.soleFrame.page [Room.twin (.text "1") 1])), refilled, ()) ∧
      (Room.soleFrame.page [Room.twin (.text "1") 1]).results.length ≠
        (Room.soleFrame.page [Room.twin (.int 1) 0, Room.twin (.text "1") 1]).results.length := by
  have hfetch : fetch Room.twins ⟨"q", "x"⟩ () =
      (.ok [Room.twin (.int 1) 0, Room.twin (.text "1") 1], ()) := by decide +kernel
  have hsave : save unfilled "q" [Room.twin (.int 1) 0, Room.twin (.text "1") 1] =
      .ok refilled := by
    decide +kernel
  have hread : refilled.resultsOf "q" = .ok [Room.twin (.text "1") 1] := by decide +kernel
  refine ⟨by decide +kernel, by decide, load_of_fetch rfl rfl hfetch hsave, rfl,
    load_of_cached Room.twins () rfl hread (List.cons_ne_nil _ _), ?_⟩
  rw [length_page, length_page]
  decide

end View

end SearchAnnotation
