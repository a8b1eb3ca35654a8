import Mathlib.Data.Bool.AllAny
import InventorySync.Settings.DataverseSettings
import InventorySync.Transport.EntityUrl

/-!
# The Dataverse URL

What consumers of `dataverse_url` rely on, and which accepted values have it. White space is
stripped before the trailing slash, so that removing the slash can bring white space to the end; and
`_validate_https_url` looks at the network location only, which may be no more than a port, and not
at a query or a fragment, behind which nothing that is appended reaches the path.

* `isNormal_iff`: the accepted values that are in normal form and safe to append to.
-/

open Python Transport

namespace Settings

/-- `DataverseClient.base_url` for a client of the given environment. -/
def baseUrl (environmentUrl : String) : String :=
  rstrip environmentUrl ['/'] ++ "/api/data/v9.2"

/-- The name of an entity set or of a field: it does not leave its segment of a path. -/
def IsSegmentText (name : String) : Prop := ∀ c ∈ name.toList, c ∉ "/?#;\t\r\n".toList

instance (name : String) : Decidable (IsSegmentText name) :=
  decidable_of_iff (name.toList.all fun c => c ∉ "/?#;\t\r\n".toList) List.all_iff_forall_prop

/-- `entity_path` -/
def entityPath (entitySet alternateKeyName encodedValue : String) : String :=
  entitySet ++ "(" ++ alternateKeyName ++ "='" ++ encodedValue ++ "')"

/-- A value in normal form, and safe to append to. -/
structure IsNormal [TextTables] (value : String) : Prop where
  fixpoint : dataverseUrl.validate (.str value) = .ok (.str value)
  stripped : strip value = value
  slash : value.toList.getLast? ≠ some '/'
  parsed : ∃ parsed, Url.urlparse value.toList = .ok parsed ∧ parsed.scheme = "https".toList ∧
    parsed.hostname ≠ [] ∧ parsed.query = [] ∧ parsed.fragment = []
  /-- The URL of every record has the same host, and its entity path at the end of the path. -/
  appended : ∀ entitySet alternateKeyName key url, IsSegmentText entitySet →
    IsSegmentText alternateKeyName →
    buildEntityUrl (baseUrl value) entitySet alternateKeyName (.str key) = .ok url →
    ∃ parsed parsed' encodedValue, Url.urlparse value.toList = .ok parsed ∧
      Url.urlparse url.toList = .ok parsed' ∧ parsed'.hostname = parsed.hostname ∧
      encodeODataStringValue (.str key) = .ok encodedValue ∧
      '/' :: (entityPath entitySet alternateKeyName encodedValue).toList <:+ parsed'.path

/-- A URL without white space at its end, without query and fragment, and with a host. -/
structure Appendable [TextTables] (value : String) : Prop where
  noSpace : ∀ c ∈ value.toList.getLast?, isSpace c = false
  noQuery : '?' ∉ value.toList
  noFragment : '#' ∉ value.toList
  host : ∀ parsed, Url.urlparse value.toList = .ok parsed → parsed.hostname ≠ []

/-! ### The stored value -/

section Strip

variable {value raw : String}

theorem stripTrailingSlash_prefix (value : String) :
    (stripTrailingSlash value).toList <+: value.toList := by
  rw [stripTrailingSlash, toList_rstrip]
  exact List.rdropWhile_prefix _ _

theorem getLast?_stripTrailingSlash (value : String) :
    (stripTrailingSlash value).toList.getLast? ≠ some '/' := by
  intro hlast
  rw [stripTrailingSlash, toList_rstrip] at hlast
  have hnot := List.not_of_mem_getLast?_rdropWhile hlast
  cases hnot

theorem stripTrailingSlash_eq_self (h : value.toList.getLast? ≠ some '/') :
    stripTrailingSlash value = value := by
  rw [← String.toList_inj, stripTrailingSlash, toList_rstrip]
  refine List.rdropWhile_eq_self fun c hc => ?_
  have hne : c ≠ '/' := by
    rintro rfl
    exact h hc
  simp [hne]

/-- A stored value that does not end with white space is not stripped any more. -/
theorem strip_stripTrailingSlash
    (hlast : ∀ c ∈ (stripTrailingSlash (strip raw)).toList.getLast?, isSpace c = false) :
    strip (stripTrailingSlash (strip raw)) = stripTrailingSlash (strip raw) := by
  rw [← String.toList_inj, toList_strip, List.trim_eq_self_iff]
  refine ⟨fun c hc => ?_, hlast⟩
  -- its head is the head of the stripped value
  obtain ⟨rest, hrest⟩ := stripTrailingSlash_prefix (strip raw)
  rw [toList_strip] at hrest
  apply List.not_of_mem_head?_trim (l := raw.toList)
  rw [← hrest, List.head?_append, Option.mem_def.1 hc]
  rfl

/-- The URL of a record: the environment's, then the version of the API, then the entity path. -/
theorem toList_buildEntityUrl {entitySet alternateKeyName key url : String}
    (h : buildEntityUrl (baseUrl value) entitySet alternateKeyName (.str key) = .ok url)
    (hslash : value.toList.getLast? ≠ some '/') :
    ∃ encodedValue, encodeODataStringValue (.str key) = .ok encodedValue ∧
      EncodedText encodedValue.toList ∧
      url.toList = value.toList ++ '/' :: ("api/data/v9.2".toList ++
        '/' :: (entityPath entitySet alternateKeyName encodedValue).toList) := by
  obtain ⟨key', hkey, rfl⟩ := buildEntityUrl_eq_ok.1 h
  obtain rfl := PyValue.str.inj hkey
  refine ⟨_, rfl, ?_, ?_⟩
  · rw [String.toList_ofList]
    exact encodedText_quote _
  · have hbase : rstrip value ['/'] = value := stripTrailingSlash_eq_self hslash
    simp [urlPrefix, entityPath, baseUrl, hbase]

theorem isSegmentText_entityPath {entitySet alternateKeyName encodedValue : String}
    (hentitySet : IsSegmentText entitySet) (hname : IsSegmentText alternateKeyName)
    (hencoded : EncodedText encodedValue.toList) :
    IsSegmentText (entityPath entitySet alternateKeyName encodedValue) := by
  have hunreserved : ∀ c ∈ "/?#;\t\r\n".toList, isUnreserved c = false ∧ c ≠ '%' :=
    List.all_iff_forall_prop.1 rfl
  intro c hc
  simp only [entityPath, String.toList_append, List.mem_append] at hc
  rcases hc with ((((hc | hc) | hc) | hc) | hc) | hc
  · exact hentitySet c hc
  · obtain rfl := List.mem_singleton.1 hc
    decide
  · exact hname c hc
  · revert c
    exact List.all_iff_forall_prop.1 rfl
  · intro hmem
    obtain ⟨hnot, hpercent⟩ := hunreserved c hmem
    rcases hencoded.isUnreserved_or_eq hc with h | h
    · rw [hnot] at h
      cases h
    · exact hpercent h
  · revert c
    exact List.all_iff_forall_prop.1 rfl

end Strip

section Url

variable [TextTables] {value raw : String}

theorem validate_eq_ok_iff :
    dataverseUrl.validate (.str raw) = .ok (.str value) ↔
      strip raw ≠ "" ∧ value = stripTrailingSlash (strip raw) ∧ ∃ parsed,
        Url.urlparse value.toList = .ok parsed ∧ parsed.scheme = "https".toList ∧
          parsed.netloc ≠ [] := by
  rw [dataverseUrl, connectionField_eq_ok]
  constructor
  · rintro ⟨hblank, text, hafter, hvalue⟩
    obtain rfl := PyValue.str.inj hvalue
    obtain ⟨rfl, hparsed⟩ := validateHttpsUrl_eq_ok.1 hafter
    exact ⟨hblank, rfl, hparsed⟩
  · rintro ⟨hblank, rfl, hparsed⟩
    exact ⟨hblank, _, validateHttpsUrl_eq_ok.2 ⟨rfl, hparsed⟩, rfl⟩

/-- What `urlsplit` makes of an accepted value. -/
theorem exists_urlsplit_of_https {parsed : Url.ParseResult}
    (hparsed : Url.urlparse value.toList = .ok parsed) (hscheme : parsed.scheme = "https".toList) :
    ∃ split, Url.urlsplit value.toList = .ok split ∧ split.scheme ≠ [] ∧
      parsed.netloc = split.netloc ∧ parsed.query = split.query ∧
        parsed.fragment = split.fragment := by
  obtain ⟨split, hsplit⟩ := Url.urlsplit_of_urlparse hparsed
  obtain ⟨parsed', hparsed', hscheme', hnetloc, hquery, hfragment, -⟩ :=
    Url.urlparse_of_urlsplit hsplit
  obtain rfl := Except.ok.inj (hparsed.symm.trans hparsed')
  refine ⟨split, hsplit, ?_, hnetloc, hquery, hfragment⟩
  rw [← hscheme', hscheme]
  exact List.cons_ne_nil _ _

/-- An accepted value that is safe to append to is in normal form. -/
theorem isNormal_of_appendable (h : dataverseUrl.validate (.str raw) = .ok (.str value))
    (happendable : Appendable value) : IsNormal value := by
  obtain ⟨-, rfl, parsed, hparsed, hscheme, hnetloc⟩ := validate_eq_ok_iff.1 h
  have hslash := getLast?_stripTrailingSlash (strip raw)
  have hstrip := strip_stripTrailingSlash happendable.noSpace
  have hne : strip (stripTrailingSlash (strip raw)) ≠ "" := by
    intro hempty
    rw [hstrip] at hempty
    rw [hempty] at hparsed
    cases hparsed
    cases hscheme
  obtain ⟨split, hsplit, hhttps, hnetloc', hquery, hfragment⟩ :=
    exists_urlsplit_of_https hparsed hscheme
  have hlocation : split.netloc ≠ [] := hnetloc' ▸ hnetloc
  refine
    { fixpoint := ?_
      stripped := hstrip
      slash := hslash
      parsed := ⟨parsed, hparsed, hscheme, happendable.host parsed hparsed, ?_⟩
      appended := ?_ }
  · rw [validate_eq_ok_iff, hstrip, stripTrailingSlash_eq_self hslash]
    exact ⟨hstrip ▸ hne, rfl, parsed, hparsed, hscheme, hnetloc⟩
  · rw [hquery, hfragment]
    exact Url.query_fragment_of_notMem hsplit happendable.noQuery happendable.noFragment
  · intro entitySet alternateKeyName key url hentitySet hname hurl
    obtain ⟨encodedValue, hencode, hencoded, htext⟩ := toList_buildEntityUrl hurl hslash
    have hsegment : ∀ c ∈ (entityPath entitySet alternateKeyName encodedValue).toList,
        c ∉ "/?#;\t\r\n".toList := isSegmentText_entityPath hentitySet hname hencoded
    obtain ⟨parsed', hparsed', hnetloc'', hpath⟩ := Url.urlparse_append hsplit hhttps hlocation
      "api/data/v9.2".toList _ happendable.noQuery happendable.noFragment
      (List.all_iff_forall_prop.1 rfl) hsegment
    rw [← htext] at hparsed'
    exact ⟨parsed, parsed', encodedValue, hparsed, hparsed',
      Url.SplitResult.hostname_congr (hnetloc''.trans hnetloc'.symm), hencode, hpath⟩

/-- An accepted value in normal form is safe to append to. -/
theorem appendable_of_isNormal (h : IsNormal value) : Appendable value := by
  obtain ⟨parsed, hparsed, hscheme, hhost, -⟩ := h.parsed
  obtain ⟨split, hsplit, hhttps, hnetloc', -⟩ := exists_urlsplit_of_https hparsed hscheme
  have hlocation : split.netloc ≠ [] := hnetloc' ▸ Url.SplitResult.netloc_of_hostname hhost
  have hstripped := h.stripped
  rw [← String.toList_inj, toList_strip, List.trim_eq_self_iff] at hstripped
  -- behind a query or a fragment, the entity path of a long name does not fit in the path
  have hbegun : ¬('?' ∈ value.toList ∨ '#' ∈ value.toList) := by
    intro hbegun
    have hletters : IsSegmentText (String.ofList (List.replicate value.toList.length 'a')) := by
      intro c hc
      rw [String.toList_ofList, List.mem_replicate] at hc
      rw [hc.2]
      decide
    obtain ⟨url, hurl⟩ : ∃ url, buildEntityUrl (baseUrl value)
        (String.ofList (List.replicate value.toList.length 'a')) "" (.str "") = .ok url := ⟨_, rfl⟩
    obtain ⟨_, parsed', encodedValue, -, hparsed', -, hencode, hpath⟩ :=
      h.appended _ "" "" url hletters (by decide) hurl
    obtain ⟨encodedValue', hencode', hencoded, htext⟩ := toList_buildEntityUrl hurl h.slash
    obtain rfl := Except.ok.inj (hencode.symm.trans hencode')
    have hsegment := isSegmentText_entityPath hletters (by decide : IsSegmentText "") hencoded
    have hle := Url.length_path_urlparse_append_le hsplit hhttps hlocation hbegun
      (fun c hc => ?_) (htext ▸ hparsed')
    · have hlength := hpath.length_le
      simp [entityPath] at hlength hle
      omega
    · have hbefore : ∀ c ∈ "api/data/v9.2".toList, Url.isRemoved c = false :=
        List.all_iff_forall_prop.1 rfl
      rcases List.mem_append.1 hc with hc | hc
      · exact hbefore c hc
      · rcases List.mem_cons.1 hc with rfl | hc
        · rfl
        · exact Url.isRemoved_of_notMem (hsegment c hc)
  rw [not_or] at hbegun
  refine ⟨hstripped.2, hbegun.1, hbegun.2, fun parsed' hparsed' => ?_⟩
  obtain rfl := Except.ok.inj (hparsed.symm.trans hparsed')
  exact hhost

/-- Every accepted value is in normal form exactly if removing the trailing slash leaves no white
space at the end, and the URL has a host, and neither a query nor a fragment. -/
theorem isNormal_iff :
    (∀ value, dataverseUrl.validate (.str raw) = .ok (.str value) → IsNormal value) ↔
      ((∃ value, dataverseUrl.validate (.str raw) = .ok (.str value)) →
        Appendable (stripTrailingSlash (strip raw))) := by
  constructor
  · rintro hnormal ⟨value, hvalue⟩
    obtain ⟨-, rfl, -⟩ := validate_eq_ok_iff.1 hvalue
    exact appendable_of_isNormal (hnormal _ hvalue)
  · intro happendable value hvalue
    obtain ⟨-, rfl, -⟩ := validate_eq_ok_iff.1 hvalue
    exact isNormal_of_appendable hvalue (happendable ⟨_, hvalue⟩)

end Url

/-- A slash behind a blank is removed, and the blank is stored. -/
theorem not_isNormal_trailing_blank :
    @FieldSpec.validate (@dataverseUrl asciiText) (.str "https://org.crm.dynamics.com /") =
        .ok (.str "https://org.crm.dynamics.com ") ∧
      ¬@IsNormal asciiText "https://org.crm.dynamics.com " := by
  refine ⟨rfl, fun hnormal => ?_⟩
  have hstripped := @IsNormal.stripped asciiText _ hnormal
  revert hstripped
  decide

end Settings
