import Mathlib.Data.List.TakeDrop
import Mathlib.Data.List.TakeWhile
import TableDump.Config.ConnectionString
import TableDump.Config.DatabaseUrl
import TableDump.Proofs.Text.PercentRoundTrip

/-! # Connection strings in URLs

What reading does with the parts of a URL, and with a URL that carries a connection string.

* `splitDriver_append`, `spanUntil_append`, `queryPair?_append`: a part ends at its mark.
* `read_odbcUrl`: such a URL is read as its driver with the connection string in the query.
* `render_read_odbcUrl`: rendered, it is the same URL; nothing in it is hidden.
-/

namespace TableDump
open TableDump.Text
set_option autoImplicit false

namespace DatabaseUrl

/-! ## Parts of a URL -/

theorem splitDriver_append {driver rest : List Char} (hne : driver ≠ []) (hdriver : ∀ c ∈ driver, isDriverChar c = true) :
    splitDriver (driver ++ ':' :: '/' :: '/' :: rest) = some (String.ofList driver, rest) := by
  have hspan : (driver ++ ':' :: '/' :: '/' :: rest).span isDriverChar = (driver, ':' :: '/' :: '/' :: rest) := by
    have hcolon : isDriverChar ':' = false := by decide
    rw [List.span_eq_takeWhile_dropWhile, List.takeWhile_append_of_pos hdriver, List.dropWhile_append_of_pos hdriver]
    simp [hcolon]
  obtain ⟨c, cs, rfl⟩ := List.exists_cons_of_ne_nil hne
  rw [splitDriver, hspan]
  rfl

theorem spanUntil_append {stops part : List Char} (hpart : ∀ c ∈ part, c ∉ stops) (stop : Char) (hstop : stop ∈ stops)
    (rest : List Char) : spanUntil stops (part ++ stop :: rest) = (part, stop :: rest) := by
  have hpass : ∀ c ∈ part, (!stops.contains c) = true := fun c hc => by simpa using hpart c hc
  rw [spanUntil, List.span_eq_takeWhile_dropWhile, List.takeWhile_append_of_pos hpass,
    List.dropWhile_append_of_pos hpass]
  simp [hstop]

theorem spanUntil_of_not_mem {stops cs : List Char} (h : ∀ stop ∈ stops, stop ∉ cs) : spanUntil stops cs = (cs, []) := by
  have hpass : ∀ c ∈ cs, (!stops.contains c) = true := fun c hc => by simpa using fun hstop => h c hstop hc
  rw [spanUntil, List.span_eq_takeWhile_dropWhile, List.takeWhile_eq_self_iff.2 hpass, List.dropWhile_eq_nil_iff.2 hpass]

theorem pieces_of_not_mem {separator : Char} {cs : List Char} (h : separator ∉ cs) : pieces separator cs = [cs] := by
  induction cs with
  | nil => rfl
  | cons c rest ih =>
    simp only [List.mem_cons, not_or] at h
    rw [pieces, if_neg (Ne.symm h.1), ih h.2]
    rfl

theorem queryPair?_append {key value : List Char} (hkey : '=' ∉ key) (hvalue : value ≠ []) :
    queryPair? (key ++ '=' :: value) = some (formDecode (String.ofList key), formDecode (String.ofList value)) := by
  have hspan : (key ++ '=' :: value).span (· != '=') = (key, '=' :: value) := by
    have hpass : ∀ c ∈ key, (c != '=') = true := fun c hc => bne_iff_ne.2 fun heq => hkey (heq ▸ hc)
    rw [List.span_eq_takeWhile_dropWhile, List.takeWhile_append_of_pos hpass, List.dropWhile_append_of_pos hpass]
    simp
  obtain ⟨c, cs, rfl⟩ := List.exists_cons_of_ne_nil hvalue
  rw [queryPair?, hspan]

/-! ## The query -/

/-- The encoded connection string with its key. -/
def odbcQuery (connection : String) : String := "odbc_connect=" ++ formEncode connection

theorem not_mem_odbcQuery {c : Char} (hc : isUnreserved c = false) (hne : c ∉ ['+', '%', '=']) (connection : String) :
    c ∉ (odbcQuery connection).toList := by
  simp only [List.mem_cons, List.not_mem_nil, or_false, not_or] at hne
  rw [odbcQuery, String.toList_append, List.mem_append, not_or]
  constructor
  · intro hkey
    have hall : ∀ d ∈ "odbc_connect=".toList, isUnreserved d = true ∨ d = '=' :=
      List.all_iff_forall_prop.1 (by decide)
    rcases hall c hkey with h | h
    · exact absurd (hc.symm.trans h) (by decide)
    · exact hne.2.2 h
  · intro hvalue
    rcases mem_formEncode hvalue with h | h | h
    · exact absurd (hc.symm.trans h) (by decide)
    · exact hne.1 h
    · exact hne.2.1 h

theorem toList_odbcKey : "odbc_connect=".toList = "odbc_connect".toList ++ ['='] := by decide

theorem readQuery_odbcQuery {connection : String} (hne : connection ≠ "") :
    readQuery (odbcQuery connection).toList = [("odbc_connect", [connection])] := by
  have hvalue : (formEncode connection).toList ≠ [] := by
    intro hempty
    have hback := formDecode_formEncode connection
    rw [String.toList_eq_nil_iff.1 hempty] at hback
    exact hne (hback.symm.trans (by decide))
  have hkey : formDecode "odbc_connect" = "odbc_connect" := by decide +kernel
  have hpair : queryPair? (odbcQuery connection).toList = some ("odbc_connect", connection) := by
    rw [odbcQuery, String.toList_append, toList_odbcKey, List.append_assoc, List.singleton_append,
      queryPair?_append (by decide) hvalue, String.ofList_toList, String.ofList_toList, hkey, formDecode_formEncode]
  rw [readQuery, pieces_of_not_mem (not_mem_odbcQuery (by decide) (by decide) _), List.filterMap_cons_some hpair]
  rfl

/-! ## Whole URLs -/

theorem toList_odbcMark : "://?odbc_connect=".toList = ':' :: '/' :: '/' :: '?' :: "odbc_connect=".toList := by decide

theorem toList_odbcUrl (connection : String) :
    (odbcUrl connection).toList = odbcDriver.toList ++ ':' :: '/' :: '/' :: '?' :: (odbcQuery connection).toList := by
  rw [odbcUrl, String.toList_append, String.toList_append, toList_odbcMark, odbcQuery, String.toList_append,
    List.append_assoc]
  simp only [List.cons_append]

theorem read_odbcUrl {connection : String} (hne : connection ≠ "") :
    read (odbcUrl connection) = .ok { driver := odbcDriver, query := [("odbc_connect", [connection])] } := by
  have hdriver : ∀ c ∈ odbcDriver.toList, isDriverChar c = true := List.all_eq_true.1 (by decide)
  have hquery := readQuery_odbcQuery hne
  have habsent : ∀ c : Char, isUnreserved c = false → c ∉ ['+', '%', '='] → c ∉ (odbcQuery connection).toList :=
    fun c hc hmarks => not_mem_odbcQuery hc hmarks connection
  rw [read, toList_odbcUrl, splitDriver_append (by decide) hdriver]
  generalize (odbcQuery connection).toList = query at hquery habsent
  have huser : splitUser ('?' :: query) = (none, none, '?' :: query) := by
    have hspan : spanUntil [':', '/'] ('?' :: query) = ('?' :: query, []) :=
      spanUntil_of_not_mem (by simp [habsent ':' (by decide) (by decide), habsent '/' (by decide) (by decide)])
    have hat : '@' ∉ '?' :: query := by simp [habsent '@' (by decide) (by decide)]
    rw [splitUser, hspan]
    simp only [splitUser.onlyUser, List.contains_iff_mem, if_neg hat]
  have hhost : splitHost ('?' :: query) = (none, '?' :: query) := rfl
  have hport : splitMarked ':' ['/', '?'] ('?' :: query) = (none, '?' :: query) := rfl
  have hdatabase : splitMarked '/' ['?'] ('?' :: query) = (none, '?' :: query) := rfl
  have hline : splitMarked '?' ['\n'] ('?' :: query) = (some query, []) := by
    rw [splitMarked, if_pos rfl, spanUntil_of_not_mem (by simp [habsent '\n' (by decide) (by decide)])]
  simp only [huser, hhost, hport, hdatabase, hline, readPort, decoded, Option.map_none, Option.getD_some, hquery,
    String.ofList_toList]
  rfl

theorem render_read_odbcUrl {connection : String} (hne : connection ≠ "") :
    (read (odbcUrl connection)).map render = .ok (odbcUrl connection) := by
  have hkey : formEncode "odbc_connect" = "odbc_connect" := by decide +kernel
  have hmark : "://?odbc_connect=" = "://" ++ ("?" ++ ("odbc_connect" ++ "=")) := by decide
  have hquery : renderQuery [("odbc_connect", [connection])] = "?" ++ (formEncode "odbc_connect" ++ "=" ++ formEncode connection) := by
    simp [renderQuery]
  rw [read_odbcUrl hne, odbcUrl, hmark]
  simp only [Except.map, render, renderUser, renderHost, renderPort, renderDatabase, hquery, hkey, String.append_empty,
    String.append_assoc]

theorem odbcUrl_injective {connection connection' : String} (h : odbcUrl connection = odbcUrl connection') :
    connection = connection' := by
  rw [odbcUrl, odbcUrl, String.append_right_inj] at h
  exact formEncode_injective h

end DatabaseUrl
end TableDump
