import SearchAnnotation.Proofs.Lookups
import SearchAnnotation.Proofs.ReferenceResults

/-!
# Spellings of page documents

The document of a page that was made from a record is read back as that page by both readers, the
one of stored documents and the one of records. Stored documents may name two of their fields in
another spelling. Reading looks fields up by their names, so neither the order of the fields nor,
as long as no field is given in both spellings, the spelling makes a difference.
-/

namespace SearchAnnotation

namespace Fields

variable {fields : Fields} {name old new : String}

/-- The fields with every field of one name under another one. -/
def rename (old new : String) (fields : Fields) : Fields :=
  fields.map fun field => (if field.1 = .text old then .text new else field.1, field.2)

theorem get?_cons {key : Name} {v : Value} :
    get? ((key, v) :: fields) name = if key = .text name then some v else get? fields name := by
  rw [get?, List.lookup_cons]
  by_cases hkey : key = .text name
  · rw [if_pos hkey, hkey, beq_self_eq_true]
  · rw [if_neg hkey, beq_false_of_ne (Ne.symm hkey)]
    rfl

theorem rename_cons {key : Name} {v : Value} :
    rename old new ((key, v) :: fields) =
      (if key = .text old then .text new else key, v) :: rename old new fields := rfl

/-- A field is found under its new name, if that was not in use before. -/
theorem get?_rename_new (unused : get? fields new = none) :
    get? (rename old new fields) new = get? fields old := by
  induction fields with
  | nil => rfl
  | cons field rest ih =>
    obtain ⟨key, v⟩ := field
    rw [get?_cons] at unused
    split at unused
    · cases unused
    · next hnew =>
      rw [rename_cons, get?_cons, get?_cons, ih unused]
      by_cases hold : key = .text old
      · rw [if_pos hold, if_pos rfl, if_pos hold]
      · rw [if_neg hold, if_neg hnew, if_neg hold]

/-- Nothing is found under the former name. -/
theorem get?_rename_old (apart : old ≠ new) : get? (rename old new fields) old = none := by
  induction fields with
  | nil => rfl
  | cons field rest ih =>
    obtain ⟨key, v⟩ := field
    rw [rename_cons, get?_cons, ih]
    by_cases hold : key = .text old
    · rw [if_pos hold, if_neg fun h => apart (Name.text.inj h).symm]
    · rw [if_neg hold, if_neg hold]

/-- Under all other names the same is found. -/
theorem get?_rename_of_ne (hold : name ≠ old) (hnew : name ≠ new) :
    get? (rename old new fields) name = get? fields name := by
  induction fields with
  | nil => rfl
  | cons field rest ih =>
    obtain ⟨key, v⟩ := field
    rw [rename_cons, get?_cons, get?_cons, ih]
    by_cases hkey : key = .text old
    · rw [if_pos hkey, hkey, if_neg fun h => hnew (Name.text.inj h).symm,
        if_neg fun h => hold (Name.text.inj h).symm]
    · rw [if_neg hkey]

end Fields

namespace Webpage

variable {fields others : Fields} {page : Webpage} {record : Value}

/-- Documents in which the same is found wherever reading looks are read alike. -/
theorem ofDocument_congr
    (plain : ∀ name ∈ ["url", "title", "site", "domain", "snippet"],
      Fields.get? fields name = Fields.get? others name)
    (pretty : either fields "prettyUrl" "pretty_url" = either others "prettyUrl" "pretty_url")
    (signals : either fields "rankingSignals" "ranking_signals" =
      either others "rankingSignals" "ranking_signals") :
    ofDocument (.object fields) = ofDocument (.object others) := by
  have hget : ∀ name ∈ ["url", "title", "site", "domain", "snippet"],
      Fields.get fields name = Fields.get others name := by
    intro name hm
    rw [Fields.get, plain name hm, Fields.get]
  simp only [ofDocument, fieldsOf, urlOf, Outcome.ok_bind, pretty, signals, plain "url" (by decide),
    hget "title" (by decide), hget "site" (by decide), hget "domain" (by decide),
    hget "snippet" (by decide)]

/-- The order of the fields of a stored document does not matter. -/
theorem ofDocument_perm (perm : fields.Perm others) (distinct : (others.map Prod.fst).Nodup) :
    ofDocument (.object fields) = ofDocument (.object others) := by
  have hget : ∀ name, Fields.get? fields name = Fields.get? others name :=
    fun name => Entries.lookup_perm distinct perm (.text name)
  refine ofDocument_congr (fun name _ => hget name) ?_ ?_
  · rw [either, Fields.get, hget, hget, either, Fields.get]
  · rw [either, Fields.get, hget, hget, either, Fields.get]

/-- The names that may have a second spelling in a stored document, each with that spelling. -/
def secondSpellings : List (String × String) :=
  [("prettyUrl", "pretty_url"), ("rankingSignals", "ranking_signals")]

/-- What is found under either spelling stays when the first is replaced by the second. -/
theorem either_rename {first second : String} (apart : first ≠ second)
    (unused : Fields.get? fields second = none) :
    either (fields.rename first second) first second = either fields first second := by
  rw [either, either, Fields.get, Fields.get, Fields.get?_rename_old apart,
    Fields.get?_rename_new unused, unused]
  cases Fields.get? fields first <;> rfl

/-- What is found under other names stays, too. -/
theorem either_rename_of_ne {first second old new : String} (hfirst : first ≠ old ∧ first ≠ new)
    (hsecond : second ≠ old ∧ second ≠ new) :
    either (fields.rename old new) first second = either fields first second := by
  rw [either, either, Fields.get, Fields.get, Fields.get?_rename_of_ne hfirst.1 hfirst.2,
    Fields.get?_rename_of_ne hsecond.1 hsecond.2]

/-- A stored document is read as before when a name is replaced by its second spelling. -/
theorem ofDocument_rename {spelling : String × String} (known : spelling ∈ secondSpellings)
    (unused : Fields.get? fields spelling.2 = none) :
    ofDocument (.object (fields.rename spelling.1 spelling.2)) = ofDocument (.object fields) := by
  have hplain : ∀ other ∈ secondSpellings, ∀ name ∈ ["url", "title", "site", "domain", "snippet"],
      name ≠ other.1 ∧ name ≠ other.2 := by decide
  have hkeep : ∀ name ∈ ["url", "title", "site", "domain", "snippet"],
      Fields.get? (fields.rename spelling.1 spelling.2) name = Fields.get? fields name := by
    intro name hm
    obtain ⟨hold, hnew⟩ := hplain spelling known name hm
    exact Fields.get?_rename_of_ne hold hnew
  rcases List.mem_cons.mp known with rfl | known
  · exact ofDocument_congr hkeep (either_rename (by decide) unused)
      (either_rename_of_ne (by decide) (by decide))
  · cases List.mem_singleton.mp known
    exact ofDocument_congr hkeep (either_rename_of_ne (by decide) (by decide))
      (either_rename (by decide) unused)

/-- The fields of the document of a page. -/
def documentFields (page : Webpage) : Fields := [
  ("url", page.url),
  ("title", page.title),
  ("site", page.site),
  ("domain", page.domain),
  ("prettyUrl", page.prettyUrl),
  ("snippet", page.snippet),
  ("rankingSignals", .object page.rankingSignals)]

/-- The fields of the document of a page with none, one or both of the names in their second
spelling. -/
def spellings (page : Webpage) : List Fields :=
  let respelled := page.documentFields.rename "prettyUrl" "pretty_url"
  [page.documentFields, respelled, page.documentFields.rename "rankingSignals" "ranking_signals",
    respelled.rename "rankingSignals" "ranking_signals"]

/-- The fields of a document have different names in every spelling. -/
theorem nodup_names_of_spelling {spelled : Fields} (h : spelled ∈ page.spellings) :
    (spelled.map Prod.fst).Nodup := by
  -- The names are the same for every page.
  have hsame : page.spellings.map (List.map Prod.fst) =
      (spellings ⟨.null, .null, .null, .null, .null, .null, []⟩).map (List.map Prod.fst) := rfl
  have hdistinct : ∀ names ∈ (spellings ⟨.null, .null, .null, .null, .null, .null, []⟩).map
      (List.map Prod.fst), names.Nodup := by decide
  exact hdistinct _ (hsame ▸ List.mem_map_of_mem h)

/-- In every spelling the document of a page is read as in the first one. -/
theorem ofDocument_spelling {spelled : Fields} (h : spelled ∈ page.spellings) :
    ofDocument (.object spelled) = ofDocument page.toDocument := by
  have hpretty : ("prettyUrl", "pretty_url") ∈ secondSpellings := by decide
  have hsignals : ("rankingSignals", "ranking_signals") ∈ secondSpellings := by decide
  have hfirst : ofDocument (.object (page.documentFields.rename "prettyUrl" "pretty_url")) =
      ofDocument page.toDocument := ofDocument_rename hpretty rfl
  simp only [spellings, List.mem_cons, List.not_mem_nil, or_false] at h
  rcases h with rfl | rfl | rfl | rfl
  · rfl
  · exact hfirst
  · exact ofDocument_rename hsignals rfl
  · rw [ofDocument_rename hsignals rfl]
    exact hfirst

/-- Whether a page is in normal form: it has a title that is not trivial or the empty text, and a
string or null for a snippet. -/
def IsNormal (page : Webpage) : Prop :=
  page.title.orElse (.text "") = page.title ∧
    (page.snippet.isString = true ∨ page.snippet = .null)

/-- Just the pages in normal form are made from records, each from its own document. -/
theorem isNormal_iff : page.IsNormal ↔ ∃ record, ofRecord record = .ok page := by
  constructor
  · rintro ⟨htitle, hsnippet⟩
    have hflat : Snippet.flatten page.snippet = .ok page.snippet := by
      rcases hsnippet with hs | hs
      · cases hp : page.snippet with
        | text s => rfl
        | unpaired codes => rfl
        | _ => rw [hp] at hs; cases hs
      · rw [hs]
        rfl
    refine ⟨page.toDocument, Outcome.bind_eq_ok.mpr ⟨page.documentFields, rfl,
      Outcome.bind_eq_ok.mpr ⟨page.url, rfl, Outcome.bind_eq_ok.mpr ⟨page.snippet, hflat, ?_⟩⟩⟩⟩
    exact congrArg (fun title => Except.ok { page with title }) htitle
  · rintro ⟨record, h⟩
    refine ⟨title_of_ofRecord h, ?_⟩
    obtain ⟨fields, -, h⟩ := Outcome.bind_eq_ok.mp h
    obtain ⟨url, -, h⟩ := Outcome.bind_eq_ok.mp h
    obtain ⟨flat, hflat, h⟩ := Outcome.bind_eq_ok.mp h
    cases h
    exact Snippet.isString_or_null_of_flatten hflat

/-- A page that was made from a record is in normal form, both readers read its document back as
the page, and so is it read in every spelling and with its fields in any order. -/
theorem read_back_in_every_spelling (h : ofRecord record = .ok page) :
    page.IsNormal ∧ ofDocument page.toDocument = .ok page ∧
      ofRecord page.toDocument = .ok page ∧
      ∀ spelled ∈ page.spellings, ∀ fields : Fields, fields.Perm spelled →
        ofDocument (.object fields) = .ok page := by
  have hback : ofDocument page.toDocument = .ok page := settled_of_ofRecord h
  refine ⟨isNormal_iff.mpr ⟨record, h⟩, hback, ofRecord_toDocument h,
    fun spelled hm fields hp => ?_⟩
  rw [ofDocument_perm hp (nodup_names_of_spelling hm), ofDocument_spelling hm, hback]

/-- A record with a title of zero, a snippet in three fragments and signals that are no object. -/
def roughRecord : Value := .object [
  ("snippet", .object [("text", .object [("fragments", .list [
    .object [("text", .text "An ")], .int 2, .object [("kind", .text "mark")]])])]),
  ("title", .int 0),
  ("rankingSignals", .list [.text "ab"]),
  ("prettyUrl", .float (.zero true)),
  ("pretty_url", .text "x"),
  ("url", .bool true)]

/-- The page of this record. -/
def roughPage : Webpage :=
  ⟨.bool true, .text "", .null, .null, .float (.zero true), .text "An 2", []⟩

theorem roughPage_read_back : ofRecord roughRecord = .ok roughPage ∧
    ofDocument (.object [("ranking_signals", .object []), ("snippet", .text "An 2"),
      ("pretty_url", .float (.zero true)), ("domain", .null), ("site", .null),
      ("title", .text ""), ("url", .bool true)]) = .ok roughPage := by
  have h : ofRecord roughRecord = .ok roughPage := by decide +kernel
  obtain ⟨-, -, -, hspelled⟩ := read_back_in_every_spelling h
  exact ⟨h, hspelled _ (List.mem_cons_of_mem _ (List.mem_cons_of_mem _ (List.mem_cons_of_mem _
    List.mem_cons_self))) _ (by decide)⟩

end Webpage

end SearchAnnotation
