import SearchAnnotation.Proofs.AlikeDocuments
import SearchAnnotation.Proofs.RereadValues
import SearchAnnotation.Proofs.RowKeys

/-!
# Rows written and read back

A result can be stored if its id is a text, its document has a JSON text and its ranks fit. The row
that it gets reads back as the result with its page as it comes back from JSON text. If the row that
has its id already spells a document like the new one, that document stays, and then the page that
is read back is the one of that document, all of whose fields are alike.
-/

namespace SearchAnnotation

namespace Webpage

variable {page : Webpage}

/-- The page that is read back where a page was written. -/
def reread (page : Webpage) : Webpage where
  url := page.url.reread
  title := page.title.reread
  site := page.site.reread
  domain := page.domain.reread
  prettyUrl := page.prettyUrl.reread
  snippet := page.snippet.reread
  rankingSignals := Fields.ofPairs (Value.rereadFields page.rankingSignals)

/-- The document of a page comes back as the document of the page that is read back. -/
theorem reread_toDocument (page : Webpage) : page.toDocument.reread = page.reread.toDocument := by
  have hnames : ((Value.rereadFields [
      (.text "url", page.url), (.text "title", page.title), (.text "site", page.site),
      (.text "domain", page.domain), (.text "prettyUrl", page.prettyUrl),
      (.text "snippet", page.snippet),
      (.text "rankingSignals", .object page.rankingSignals)]).map Prod.fst).Nodup := by
    simp only [Value.rereadFields, Name.reread_text, List.map_cons, List.map_nil]
    decide
  rw [toDocument, Value.reread, Fields.ofPairs_of_nodup hnames]
  simp only [Value.rereadFields, Name.reread_text, toDocument, reread, Value.reread]

theorem toDocument_inj {other : Webpage} : page.toDocument = other.toDocument ↔ page = other := by
  constructor
  · intro h
    cases page
    cases other
    simp only [toDocument, Value.object.injEq, List.cons.injEq, Prod.mk.injEq, true_and,
      and_true] at h
    obtain ⟨rfl, rfl, rfl, rfl, rfl, rfl, rfl⟩ := h
    rfl
  · exact congrArg toDocument

/-- A page comes back as it was just if its document does. -/
theorem reread_eq_self_iff : page.reread = page ↔ page.toDocument.survives = true := by
  rw [← Value.reread_eq_self_iff, reread_toDocument, toDocument_inj]

/-- A page that is read back from its document comes back as such a page. -/
theorem Settled.reread (h : page.Settled) : page.reread.Settled := by
  have htitle := settled_iff_title.mp h
  refine settled_iff_title.mpr ?_
  have htrivial := Value.isTrivial_reread page.title
  unfold Value.orElse at htitle ⊢
  split
  · next hback =>
    rw [if_pos (htrivial.symm.trans hback)] at htitle
    rw [Webpage.reread, ← htitle]
    rfl
  · rfl

end Webpage

namespace SearchResult

variable {result : SearchResult}

/-- Whether a result can be stored. -/
structure Storable (result : SearchResult) : Prop where
  /-- Its id is a text. -/
  text : result.hasTextId = true
  /-- Its document has a JSON text. -/
  writable : Json.isWritable result.webpage.toDocument = true
  /-- Its ranks fit into sixty-four bits. -/
  fit : result.ranksFit = true

/-- Just the results that can be stored are not refused. -/
theorem refusal?_eq_none_iff : result.refusal? = none ↔ result.Storable := by
  constructor
  · intro h
    unfold refusal? at h
    split at h
    · cases h
    · next htext =>
      split at h
      · cases h
      · next hwritable =>
        split at h
        · cases h
        · next hfit => exact ⟨by simpa using htext, by simpa using hwritable, by simpa using hfit⟩
  · rintro ⟨htext, hwritable, hfit⟩
    simp only [refusal?, htext, hwritable, hfit, Bool.not_true, Bool.false_eq_true, if_false]

instance (result : SearchResult) : Decidable result.Storable :=
  decidable_of_iff (result.refusal? = none) refusal?_eq_none_iff

/-- An id that is a text is the key of its row. -/
theorem id_eq_key (h : result.hasTextId = true) : result.id = .text result.key := by
  unfold hasTextId at h
  unfold key
  cases hid : result.id with
  | text s => rw [Value.ofName, Value.displayString, Value.display, String.ofList_toList]
  | unpaired u =>
    rw [hid] at h
    cases h

/-- A result with its page as it is read back. -/
def reread (result : SearchResult) : SearchResult :=
  { result with webpage := result.webpage.reread }

/-- A result comes back as it was just if its page does. -/
theorem reread_eq_self_iff : result.reread = result ↔ result.webpage.reread = result.webpage := by
  constructor
  · exact congrArg webpage
  · intro h
    rw [reread, h]

end SearchResult

namespace ResultRow

variable {row : ResultRow} {page : Webpage} {result : SearchResult}

/-- A row that a page was written into spells the document of the page that is read back. -/
theorem value_of_document (h : row.document = Json.render page.toDocument)
    (writable : Json.isWritable page.toDocument = true) :
    row.value = .ok page.reread.toDocument := by
  rw [value, h, Json.read_render writable le_rfl, Webpage.reread_toDocument]
  rfl

/-- A row reads back with its own id and ranks, and with the page of its document. -/
theorem toResult_eq_ok : row.toResult = .ok result ↔
    ∃ document page, row.value = .ok document ∧ Webpage.ofDocument document = .ok page ∧
      result = ⟨row.id, row.origRank, row.annotatedRank, page⟩ := by
  rw [toResult, Outcome.bind_eq_ok]
  constructor
  · rintro ⟨document, hvalue, h⟩
    obtain ⟨page, hpage, h⟩ := Outcome.bind_eq_ok.mp h
    exact ⟨document, page, hvalue, hpage, (Except.ok.inj h).symm⟩
  · rintro ⟨document, page, hvalue, hpage, rfl⟩
    exact ⟨document, hvalue, Outcome.bind_eq_ok.mpr ⟨page, hpage, rfl⟩⟩

/-- A row that stores a result gives it its id and both of its ranks. -/
theorem fields_of_toResult (h : row.toResult = .ok result) :
    result.id = row.id ∧ result.origRank = row.origRank ∧
      result.annotatedRank = row.annotatedRank := by
  obtain ⟨document, page, -, -, rfl⟩ := toResult_eq_ok.mp h
  exact ⟨rfl, rfl, rfl⟩

theorem qid_ofResult (qid : String) (result : SearchResult) : (ofResult qid result).qid = qid := rfl

/-- The row of its own that a result gets reads back as the result with its page read back. -/
theorem toResult_ofResult {qid : String} (text : result.hasTextId = true)
    (writable : Json.isWritable result.webpage.toDocument = true)
    (settled : result.webpage.Settled) : (ofResult qid result).toResult = .ok result.reread := by
  have hvalue : (ofResult qid result).value = .ok result.webpage.reread.toDocument :=
    value_of_document rfl writable
  refine toResult_eq_ok.mpr ⟨_, _, hvalue, settled.reread, ?_⟩
  rw [SearchResult.reread, SearchResult.id_eq_key text]
  rfl

/-- The page of the document that a row spells, if that document is like the one of a page. -/
def heldPage? (row : ResultRow) (page : Webpage) : Option Webpage :=
  if row.holds page.toDocument then (row.value.bind Webpage.ofDocument).toOption else none

/-- A row that spells a document like that of a page holds a page with alike fields. -/
theorem exists_heldPage? (settled : page.Settled) (h : row.holds page.toDocument = true) :
    ∃ document other, row.value = .ok document ∧ Webpage.ofDocument document = .ok other ∧
      row.heldPage? page = some other ∧ page.Alike other := by
  have hholds := h
  unfold holds at h
  cases hvalue : row.value with
  | error why =>
    rw [hvalue] at h
    cases h
  | ok document =>
    rw [hvalue] at h
    obtain ⟨other, hother, halike⟩ := Webpage.exists_of_alike settled h
    refine ⟨document, other, rfl, hother, ?_, halike⟩
    rw [heldPage?, if_pos hholds, hvalue]
    exact congrArg Except.toOption hother

/-- A row that spells a document like that of a page stores a page with an alike address. -/
theorem url_of_holds (settled : page.Settled) (h : row.holds page.toDocument = true)
    (reads : row.toResult = .ok result) : page.url.alike result.webpage.url = true := by
  obtain ⟨document, other, hvalue, hother, -, halike⟩ := exists_heldPage? settled h
  have hresult := toResult_eq_ok.mpr ⟨document, other, hvalue, hother, rfl⟩
  rw [reads, Except.ok.injEq] at hresult
  rw [hresult]
  exact halike.url

end ResultRow

namespace Store

variable {rows : List ResultRow} {result : SearchResult} {qid : String}

/-- What is read back of a result once it is stored among rows: its page is the one that the row
with its id holds already, or else its own as it is read back. -/
def kept (rows : List ResultRow) (result : SearchResult) : SearchResult :=
  { result with webpage := ((first? rows result.key).bind fun row =>
      row.heldPage? result.webpage).getD result.webpage.reread }

/-- A result is kept as it is just if its page is. -/
theorem kept_eq_self_iff :
    kept rows result = result ↔ (kept rows result).webpage = result.webpage := by
  constructor
  · exact congrArg SearchResult.webpage
  · intro h
    have hkept : kept rows result = { result with webpage := (kept rows result).webpage } := rfl
    rw [hkept, h]

theorem id_rowFor (rows : List ResultRow) (qid : String) (result : SearchResult) :
    (rowFor rows qid result).id = result.key := by
  unfold rowFor
  dsimp only
  split
  · split <;> rfl
  · rfl

/-- Apart from its text, the row for a result is the one of its own. -/
theorem rowFor_eq (rows : List ResultRow) (qid : String) (result : SearchResult) :
    rowFor rows qid result =
      { ResultRow.ofResult qid result with document := (rowFor rows qid result).document } := by
  unfold rowFor
  dsimp only
  split
  · split <;> rfl
  · rfl

theorem origRank_rowFor (rows : List ResultRow) (qid : String) (result : SearchResult) :
    (rowFor rows qid result).origRank = result.origRank := by
  rw [rowFor_eq]
  rfl

/-- Where no row with its id holds a document like its own, a result gets a row of its own. -/
theorem rowFor_of_new (new : ∀ row ∈ rows, row.id = result.key →
    row.holds result.webpage.toDocument = false) :
    rowFor rows qid result = ResultRow.ofResult qid result := by
  have hid : (ResultRow.ofResult qid result).id = result.key := rfl
  unfold rowFor
  dsimp only
  rw [hid]
  cases hfirst : first? rows result.key with
  | none => rfl
  | some old =>
    obtain ⟨hm, hkey⟩ := mem_of_first? hfirst
    have hold := new old hm hkey
    simp only [hold, Bool.false_eq_true, if_false]

/-- The row for a result is read back as the result with the page that is kept. -/
theorem toResult_rowFor (storable : result.Storable) (settled : result.webpage.Settled) :
    (rowFor rows qid result).toResult = .ok (kept rows result) := by
  have hid : (ResultRow.ofResult qid result).id = result.key := rfl
  unfold rowFor kept
  dsimp only
  rw [hid]
  cases hfirst : first? rows result.key with
  | none => exact ResultRow.toResult_ofResult storable.text storable.writable settled
  | some old =>
    cases hholds : old.holds result.webpage.toDocument with
    | false =>
      have hnone : old.heldPage? result.webpage = none := by
        rw [ResultRow.heldPage?, hholds, if_neg Bool.false_ne_true]
      simp only [hholds, Bool.false_eq_true, if_false, Option.bind_some, hnone, Option.getD_none]
      exact ResultRow.toResult_ofResult storable.text storable.writable settled
    | true =>
      obtain ⟨document, other, hvalue, hother, hheld, -⟩ :=
        ResultRow.exists_heldPage? settled hholds
      simp only [hholds, if_true, Option.bind_some, hheld, Option.getD_some]
      refine ResultRow.toResult_eq_ok.mpr ⟨document, other, hvalue, hother, ?_⟩
      rw [SearchResult.id_eq_key storable.text]
      rfl

/-- Where no row with its id holds a document like its own, a result is read back as from text. -/
theorem kept_of_new (new : ∀ row ∈ rows, row.id = result.key →
    row.holds result.webpage.toDocument = false) : kept rows result = result.reread := by
  unfold kept
  cases hfirst : first? rows result.key with
  | none => rfl
  | some old =>
    obtain ⟨hm, hkey⟩ := mem_of_first? hfirst
    have hold := new old hm hkey
    simp only [Option.bind_some, ResultRow.heldPage?, hold, Bool.false_eq_true, if_false,
      Option.getD_none]
    rfl

/-- What is read back of a result has its page as from text, or one with alike fields. -/
theorem kept_reread_or_alike (settled : result.webpage.Settled) :
    kept rows result = result.reread ∨ result.webpage.Alike (kept rows result).webpage := by
  unfold kept
  cases hfirst : first? rows result.key with
  | none => exact .inl rfl
  | some old =>
    cases hholds : old.holds result.webpage.toDocument with
    | false =>
      refine .inl ?_
      simp only [Option.bind_some, ResultRow.heldPage?, hholds, Bool.false_eq_true, if_false,
        Option.getD_none]
      rfl
    | true =>
      obtain ⟨document, other, -, -, hheld, halike⟩ := ResultRow.exists_heldPage? settled hholds
      refine .inr ?_
      simp only [Option.bind_some, hheld, Option.getD_some]
      exact halike

/-- Which row a result gets depends on the first row with its id alone. -/
theorem rowFor_congr {others : List ResultRow}
    (h : first? rows result.key = first? others result.key) :
    rowFor rows qid result = rowFor others qid result := by
  have hid : (ResultRow.ofResult qid result).id = result.key := rfl
  unfold rowFor
  dsimp only
  rw [hid, h]

/-- A result that was stored last gets the row that it has. -/
theorem rowFor_of_first? {others : List ResultRow}
    (h : first? others result.key = some (rowFor rows qid result)) :
    rowFor others qid result = rowFor rows qid result := by
  have hid : (ResultRow.ofResult qid result).id = result.key := rfl
  cases hholds : (rowFor rows qid result).holds result.webpage.toDocument with
  | true =>
    have hstay : rowFor others qid result =
        { ResultRow.ofResult qid result with document := (rowFor rows qid result).document } := by
      conv_lhs => unfold rowFor
      dsimp only
      rw [hid, h]
      simp only [hholds, if_true]
    rw [hstay, ← rowFor_eq]
  | false =>
    have hown : rowFor others qid result = ResultRow.ofResult qid result := by
      conv_lhs => unfold rowFor
      dsimp only
      rw [hid, h]
      simp only [hholds, Bool.false_eq_true, if_false]
    rw [hown]
    -- Had the text of an earlier row stayed, the row would hold a document like the new one.
    unfold rowFor at hholds ⊢
    dsimp only at hholds ⊢
    split
    · next old hfirst =>
      split
      · next hold =>
        simp only [hfirst, hold, if_true] at hholds
        exact absurd (hold.symm.trans hholds) (by decide)
      · rfl
    · rfl

/-- The rows that results get when they are written one after the other. -/
def written (rows : List ResultRow) (qid : String) : List SearchResult → List ResultRow
  | [] => []
  | result :: rest =>
    rowFor rows qid result :: written (upsert (rowFor rows qid result) rows) qid rest

variable {results : List SearchResult}

/-- Writing results puts their rows. -/
theorem writeAll_eq_upsertAll (rows : List ResultRow) (qid : String) (results : List SearchResult) :
    writeAll rows qid results = upsertAll rows (written rows qid results) := by
  induction results generalizing rows with
  | nil => rfl
  | cons result rest ih =>
    rw [written, upsertAll_cons, ← ih]
    rfl

theorem idsOf_written (rows : List ResultRow) (qid : String) (results : List SearchResult) :
    idsOf (written rows qid results) = results.map SearchResult.key := by
  induction results generalizing rows with
  | nil => rfl
  | cons result rest ih =>
    have hrest := ih (upsert (rowFor rows qid result) rows)
    rw [idsOf] at hrest ⊢
    rw [written, List.map_cons, List.map_cons, hrest, id_rowFor]

/-- Each row that is written is the one for a result among some rows. -/
theorem exists_of_mem_written {row : ResultRow} (h : row ∈ written rows qid results) :
    ∃ result ∈ results, ∃ among, row = rowFor among qid result := by
  induction results generalizing rows with
  | nil => cases h
  | cons result rest ih =>
    rcases List.mem_cons.mp h with rfl | h
    · exact ⟨result, List.mem_cons_self, rows, rfl⟩
    · obtain ⟨other, hm, hrow⟩ := ih h
      exact ⟨other, List.mem_cons_of_mem result hm, hrow⟩

theorem qid_of_mem_written {row : ResultRow} (h : row ∈ written rows qid results) :
    row.qid = qid := by
  obtain ⟨result, -, among, rfl⟩ := exists_of_mem_written h
  rw [rowFor_eq]
  rfl

/-- Results with different ids get the rows that they would get alone. -/
theorem written_of_nodup (distinct : (results.map SearchResult.key).Nodup) :
    written rows qid results = results.map (rowFor rows qid) := by
  have hlater : ∀ (results : List SearchResult) (rows others : List ResultRow),
      (∀ result ∈ results, first? others result.key = first? rows result.key) →
      (results.map SearchResult.key).Nodup →
        written others qid results = results.map (rowFor rows qid) := by
    intro results
    induction results with
    | nil => exact fun _ _ _ _ => rfl
    | cons result rest ih =>
      intro rows others hsame hdistinct
      obtain ⟨hresult, hrest⟩ := List.nodup_cons.mp hdistinct
      rw [written, List.map_cons, rowFor_congr (hsame result List.mem_cons_self)]
      refine congrArg _ (ih rows _ (fun other hm => ?_) hrest)
      have hapart : other.key ≠ (rowFor rows qid result).id := by
        rw [id_rowFor]
        exact fun he => hresult (he ▸ List.mem_map_of_mem hm)
      rw [first?_upsert_of_ne hapart]
      exact hsame other (List.mem_cons_of_mem result hm)
  exact hlater results rows rows (fun _ _ => rfl) distinct

end Store

end SearchAnnotation
