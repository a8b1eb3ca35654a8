import InventorySync.Foundations.Except
import InventorySync.Python.Exceptions
import InventorySync.Python.Text

/-!
# Splitting URLs

`urllib.parse.urlparse`: how a URL is split into scheme, network location, path, parameters, query
and fragment, and how the host is read off the network location.

* `urlparse_append`: what is appended to a URL without query and fragment goes to the end of its
  path;
* `length_path_urlparse_append_le`: behind a query or a fragment it does not;
* `urlparse_append_slash`: whatever is appended behind a slash, the network location stays.
-/

namespace Python.Url

/-- A URL, or a part of one. -/
abbrev Text := List Char

/-- `_WHATWG_C0_CONTROL_OR_SPACE` -/
def isC0ControlOrSpace (c : Char) : Bool := c.toNat ≤ 32

/-- The characters that are removed wherever they stand. -/
def isRemoved (c : Char) : Bool := c == '\t' || c == '\r' || c == '\n'

/-- `scheme_chars` -/
def isSchemeChar (c : Char) : Bool := c.isAlphanum || c == '+' || c == '-' || c == '.'

/-- The characters that end a network location. -/
def isNetlocEnd (c : Char) : Bool := c == '/' || c == '?' || c == '#'

/-- `uses_params` -/
def usesParams : List String :=
  ["", "ftp", "hdl", "prospero", "http", "https", "shttp", "rtsp", "rtsps", "sip", "sips", "mms",
    "sftp", "tel"]

/-- The text that is split. -/
def clean (url : Text) : Text := (url.dropWhile isC0ControlOrSpace).filter (!isRemoved ·)

/-- `s.partition(c)`, without the separator. -/
def partition (c : Char) (s : Text) : Text × Text := ((s.cut (· == c)).1, (s.cut (· == c)).2.drop 1)

/-- What stands before the first colon is a scheme. -/
def isScheme (scheme : Text) : Bool :=
  match scheme with
  | [] => false
  | c :: _ => c.isAlpha && scheme.all isSchemeChar

/-- The scheme in lower case, and what follows it. -/
def splitScheme (url : Text) : Text × Text :=
  if url.contains ':' && isScheme (url.cut (· == ':')).1 then
    ((url.cut (· == ':')).1.map Char.toLower, (url.cut (· == ':')).2.drop 1)
  else ([], url)

/-- The network location behind `//`, and what follows it. -/
def splitNetloc (url : Text) : Text × Text :=
  if url.take 2 = ['/', '/'] then (url.drop 2).cut isNetlocEnd else ([], url)

section Checks

variable [TextTables]

/-- What is said of a bracketed host. -/
def checkBracketedHost (hostname : Text) : Except PyException Unit :=
  match hostname with
  | 'v' :: version =>
    -- `\Av[a-fA-F0-9]+\..+\z`
    let (digits, address) := version.cut (!"0123456789abcdefABCDEF".toList.contains ·)
    if digits ≠ [] ∧ address.head? = some '.' ∧ 2 ≤ address.length then .ok ()
    else .error ⟨.valueError, "IPvFuture address is invalid"⟩
  | _ =>
    if TextTables.isIpv6 hostname then .ok ()
    else .error ⟨.valueError, "the host is no IPv6 address"⟩

/-- `_check_bracketed_netloc`, for a network location with a bracket. -/
def checkBracketedNetloc (netloc : Text) : Except PyException Unit :=
  let hostnameAndPort := (netloc.rcut (· == '@')).2
  if hostnameAndPort.contains '[' then
    let (beforeBracket, bracketed) := partition '[' hostnameAndPort
    if beforeBracket ≠ [] then .error ⟨.valueError, "Invalid IPv6 URL"⟩
    else
      let (hostname, port) := partition ']' bracketed
      if port ≠ [] ∧ port.head? ≠ some ':' then .error ⟨.valueError, "Invalid IPv6 URL"⟩
      else checkBracketedHost hostname
  else checkBracketedHost (partition ':' hostnameAndPort).1

/-- What the brackets of a network location are checked for. -/
def checkBrackets (netloc : Text) : Except PyException Unit :=
  if netloc.contains '[' != netloc.contains ']' then .error ⟨.valueError, "Invalid IPv6 URL"⟩
  else if netloc.contains '[' then checkBracketedNetloc netloc
  else .ok ()

/-- `_checknetloc`: no character of a network location turns into a delimiter when it is
normalized. -/
def checknetloc (netloc : Text) : Except PyException Unit :=
  if netloc.all isAscii then .ok ()
  else
    let n := netloc.filter fun c => !"@:#?".toList.contains c
    let netloc2 := TextTables.nfkc n
    if n = netloc2 then .ok ()
    else if netloc2.any "/?#@:".toList.contains then
      .error ⟨.valueError, "netloc '" ++ String.ofList netloc ++
        "' contains invalid characters under NFKC normalization"⟩
    else .ok ()

end Checks

/-- What `urlsplit` returns. -/
structure SplitResult where
  scheme : Text
  netloc : Text
  path : Text
  query : Text
  fragment : Text

/-- The path, the query and the fragment. -/
def splitPath (url : Text) : Text × Text × Text :=
  let (url, fragment) := partition '#' url
  let (url, query) := partition '?' url
  (url, query, fragment)

/-- `urlsplit(url)` -/
def urlsplit [TextTables] (url : Text) : Except PyException SplitResult := do
  let (scheme, url) := splitScheme (clean url)
  let (netloc, url) := splitNetloc url
  checkBrackets netloc
  let (path, query, fragment) := splitPath url
  checknetloc netloc
  return ⟨scheme, netloc, path, query, fragment⟩

/-- What `urlparse` returns. -/
structure ParseResult extends SplitResult where
  params : Text

/-- `_splitparams`: the parameters of the last segment of a path. -/
def splitparams (path : Text) : Text × Text :=
  let segment := (path.rcut (· == '/')).2
  if segment.contains ';' then
    ((path.rcut (· == '/')).1 ++ (partition ';' segment).1, (partition ';' segment).2)
  else (path, [])

/-- `urlparse(url)` -/
def urlparse [TextTables] (url : Text) : Except PyException ParseResult := do
  let result ← urlsplit url
  if usesParams.contains (String.ofList result.scheme) && result.path.contains ';' then
    return { result with
      path := (splitparams result.path).1, params := (splitparams result.path).2 }
  else return { result with params := [] }

/-- The host in a network location, `_hostinfo[0]`. -/
def SplitResult.hostname (result : SplitResult) : Text :=
  let hostinfo := (result.netloc.rcut (· == '@')).2
  if hostinfo.contains '[' then (partition ']' (partition '[' hostinfo).2).1
  else (partition ':' hostinfo).1

/-- The host is read off the network location. -/
theorem SplitResult.hostname_congr {result result' : SplitResult}
    (h : result'.netloc = result.netloc) : result'.hostname = result.hostname := by
  rw [hostname, hostname, h]

theorem SplitResult.netloc_of_hostname {result : SplitResult} (h : result.hostname ≠ []) :
    result.netloc ≠ [] := by
  intro hnetloc
  rw [hostname, hnetloc] at h
  exact h rfl

/-! ### What stands where -/

/-- The network location of a URL, and what follows it. -/
def location (url : Text) : Text × Text := splitNetloc (splitScheme (clean url)).2

theorem urlsplit_eq_ok [TextTables] {url : Text} {result : SplitResult} :
    urlsplit url = .ok result ↔
      checkBrackets (location url).1 = .ok () ∧ checknetloc (location url).1 = .ok () ∧
        result = ⟨(splitScheme (clean url)).1, (location url).1, (splitPath (location url).2).1,
          (splitPath (location url).2).2.1, (splitPath (location url).2).2.2⟩ := by
  have hsplit : urlsplit url = (checkBrackets (location url).1).bind fun _ =>
      (checknetloc (location url).1).bind fun _ =>
        .ok ⟨(splitScheme (clean url)).1, (location url).1, (splitPath (location url).2).1,
          (splitPath (location url).2).2.1, (splitPath (location url).2).2.2⟩ := rfl
  rw [hsplit]
  cases checkBrackets (location url).1 with
  | error e => simp [Except.bind]
  | ok _ =>
    cases checknetloc (location url).1 with
    | error e => simp [Except.bind]
    | ok _ => simp [Except.bind, eq_comm]

variable {url rest : Text}

theorem clean_append (hurl : clean url ≠ []) (hrest : ∀ c ∈ rest, isRemoved c = false) :
    clean (url ++ rest) = clean url ++ rest := by
  have hdrop : url.dropWhile isC0ControlOrSpace ≠ [] := by
    intro hnil
    rw [clean, hnil] at hurl
    exact hurl rfl
  have hfilter : rest.filter (!isRemoved ·) = rest := by
    rw [List.filter_eq_self]
    intro c hc
    rw [hrest c hc]
    rfl
  rw [clean, List.dropWhile_append, if_neg (by simpa using hdrop), List.filter_append, hfilter,
    ← clean]

/-- A URL with a scheme has a colon, and a scheme before it. -/
theorem of_fst_splitScheme (h : (splitScheme url).1 ≠ []) :
    ':' ∈ url ∧ isScheme (url.cut (· == ':')).1 = true ∧ splitScheme url =
      ((url.cut (· == ':')).1.map Char.toLower, (url.cut (· == ':')).2.drop 1) := by
  by_cases hcond : (url.contains ':' && isScheme (url.cut (· == ':')).1) = true
  · have hparts := hcond
    rw [Bool.and_eq_true, List.contains_iff_mem] at hparts
    exact ⟨hparts.1, hparts.2, by rw [splitScheme, if_pos hcond]⟩
  · rw [splitScheme, if_neg hcond] at h
    exact absurd rfl h

theorem splitScheme_append (h : (splitScheme url).1 ≠ []) :
    splitScheme (url ++ rest) = ((splitScheme url).1, (splitScheme url).2 ++ rest) := by
  obtain ⟨hcolon, hscheme, hsplit⟩ := of_fst_splitScheme h
  have hmem : ∃ c ∈ url, (c == ':') = true := ⟨':', hcolon, rfl⟩
  have hcut := List.cut_append_of_mem (m := rest) hmem
  have hlength : 1 ≤ (url.cut (· == ':')).2.length := by
    -- the colon is not before the first colon
    by_contra hzero
    have hnil : (url.cut (· == ':')).2 = [] := List.length_eq_zero_iff.1 (by omega)
    have hwhole := List.fst_cut_append_snd (· == ':') url
    rw [hnil, List.append_nil] at hwhole
    have hnot := List.not_of_mem_fst_cut (p := (· == ':')) (hwhole.symm ▸ hcolon)
    cases hnot
  have hcond :
      ((url ++ rest).contains ':' && isScheme ((url ++ rest).cut (· == ':')).1) = true := by
    rw [hcut, hscheme, Bool.and_true, List.contains_iff_mem]
    exact List.mem_append_left rest hcolon
  rw [hsplit, splitScheme, if_pos hcond, hcut, List.drop_append_of_le_length hlength]

theorem splitNetloc_append (h : (splitNetloc url).1 ≠ []) :
    splitNetloc (url ++ '/' :: rest) =
      ((splitNetloc url).1, (splitNetloc url).2 ++ '/' :: rest) := by
  by_cases hslashes : url.take 2 = ['/', '/']
  · have hlength : 2 ≤ url.length := by
      have htake := congrArg List.length hslashes
      rw [List.length_take] at htake
      simp only [List.length_cons, List.length_nil] at htake
      omega
    rw [splitNetloc, List.take_append_of_le_length hlength, if_pos hslashes,
      List.drop_append_of_le_length hlength, splitNetloc, if_pos hslashes]
    by_cases hend : ∃ c ∈ url.drop 2, isNetlocEnd c = true
    · rw [List.cut_append_of_mem hend]
    · -- the network location goes on to the end, and ends at the slash that is appended
      have hend' : ∀ c ∈ url.drop 2, isNetlocEnd c = false := by simpa using hend
      have hcut : ('/' :: rest).cut isNetlocEnd = ([], '/' :: rest) := rfl
      rw [List.cut_append_of_notMem hend', List.cut_of_notMem hend', hcut, List.append_nil,
        List.nil_append]
  · rw [splitNetloc, if_neg hslashes] at h
    exact absurd rfl h

theorem splitPath_of_notMem (hquery : '?' ∉ url) (hfragment : '#' ∉ url) :
    splitPath url = (url, [], []) := by
  have hcut {c : Char} (hc : c ∉ url) : partition c url = (url, []) := by
    have hall : ∀ d ∈ url, (d == c) = false := by
      intro d hd
      rw [beq_eq_false_iff_ne]
      rintro rfl
      exact hc hd
    rw [partition, List.cut_of_notMem hall]
    rfl
  rw [splitPath, hcut hfragment]
  simp only [hcut hquery]

/-- A path in which a query or a fragment has begun does not go on. -/
theorem length_fst_splitPath_append_le (h : '?' ∈ url ∨ '#' ∈ url) :
    (splitPath (url ++ rest)).1.length ≤ url.length := by
  change (((url ++ rest).cut (· == '#')).1.cut (· == '?')).1.length ≤ url.length
  by_cases hfragment : '#' ∈ url
  · rw [List.cut_append_of_mem ⟨'#', hfragment, rfl⟩]
    exact le_trans (List.length_fst_cut_le _ _) (List.length_fst_cut_le _ _)
  · have hall : ∀ c ∈ url, (c == '#') = false := by
      intro c hc
      rw [beq_eq_false_iff_ne]
      rintro rfl
      exact hfragment hc
    have hquery : '?' ∈ url := h.resolve_right hfragment
    rw [List.cut_append_of_notMem hall, List.cut_append_of_mem ⟨'?', hquery, rfl⟩]
    exact List.length_fst_cut_le _ _

/-- What stands behind the network location is a part of the URL. -/
theorem snd_location_sublist (url : Text) : (location url).2.Sublist url := by
  have hnetloc (u : Text) : (splitNetloc u).2.Sublist u := by
    unfold splitNetloc
    split
    · exact (List.dropWhile_sublist _).trans (List.drop_sublist 2 u)
    · exact List.Sublist.refl u
  have hscheme (u : Text) : (splitScheme u).2.Sublist u := by
    unfold splitScheme
    split
    · exact (List.drop_sublist 1 _).trans (List.dropWhile_sublist _)
    · exact List.Sublist.refl u
  have hclean : (clean url).Sublist url :=
    List.filter_sublist.trans (List.dropWhile_sublist _)
  exact (hnetloc _).trans ((hscheme _).trans hclean)

/-- The delimiters of a query and of a fragment stand behind the network location. -/
theorem mem_snd_location {c : Char} (hc : c = '?' ∨ c = '#')
    (hscheme : (splitScheme (clean url)).1 ≠ []) (hnetloc : (location url).1 ≠ [])
    (h : c ∈ url) : c ∈ (location url).2 := by
  have hclean : c ∈ clean url := by
    refine List.mem_filter.2 ⟨List.mem_dropWhile_of_not h ?_, ?_⟩ <;>
      rcases hc with rfl | rfl <;> rfl
  obtain ⟨-, hchars, hsplit⟩ := of_fst_splitScheme hscheme
  -- it is no character of a scheme, and not the colon behind it
  have hafter : c ∈ (splitScheme (clean url)).2 := by
    rw [← List.fst_cut_append_snd (· == ':') (clean url), List.mem_append] at hclean
    rcases hclean with hbefore | hmem
    · cases hpre : ((clean url).cut (· == ':')).1 with
      | nil => simp [hpre] at hbefore
      | cons d scheme =>
        rw [hpre] at hchars hbefore
        have hall := (Bool.and_eq_true_iff.1 hchars).2
        have hchar := List.all_eq_true.1 hall c hbefore
        rcases hc with rfl | rfl <;> cases hchar
    · rw [hsplit]
      exact List.mem_drop_snd_cut hmem (by rcases hc with rfl | rfl <;> rfl)
  have hslashes : (splitScheme (clean url)).2.take 2 = ['/', '/'] := by
    by_contra hslashes
    rw [location, splitNetloc, if_neg hslashes] at hnetloc
    exact hnetloc rfl
  rw [location, splitNetloc, if_pos hslashes]
  -- nor one of the slashes, nor one of the network location
  rw [← List.take_append_drop 2 (splitScheme (clean url)).2, hslashes, List.mem_append] at hafter
  have hdrop : c ∈ (splitScheme (clean url)).2.drop 2 :=
    hafter.resolve_left (by rcases hc with rfl | rfl <;> decide)
  rw [← List.fst_cut_append_snd isNetlocEnd ((splitScheme (clean url)).2.drop 2),
    List.mem_append] at hdrop
  refine hdrop.resolve_left fun hmem => ?_
  have hnot := List.not_of_mem_fst_cut hmem
  rcases hc with rfl | rfl <;> cases hnot

/-- Behind a network location, what is appended from a slash on is left as it is. -/
theorem location_append (hscheme : (splitScheme (clean url)).1 ≠ [])
    (hnetloc : (location url).1 ≠ []) (hrest : ∀ c ∈ rest, isRemoved c = false) :
    (splitScheme (clean (url ++ '/' :: rest))).1 = (splitScheme (clean url)).1 ∧
      location (url ++ '/' :: rest) = ((location url).1, (location url).2 ++ '/' :: rest) := by
  -- a URL with a scheme has a character that `clean` keeps
  have hclean : clean url ≠ [] := by
    intro hnil
    rw [hnil] at hscheme
    exact hscheme rfl
  have hrest' : ∀ c ∈ '/' :: rest, isRemoved c = false := by
    intro c hc
    rcases List.mem_cons.1 hc with rfl | hc
    · rfl
    · exact hrest c hc
  rw [location, clean_append hclean hrest', splitScheme_append hscheme]
  exact ⟨rfl, splitNetloc_append hnetloc⟩

/-- Splitting parameters off shortens a path. -/
theorem length_fst_splitparams_le (path : Text) : (splitparams path).1.length ≤ path.length := by
  simp only [splitparams]
  split
  · have hlength := congrArg List.length (List.fst_rcut_append_snd (· == '/') path)
    have hle := List.length_fst_cut_le (· == ';') (path.rcut (· == '/')).2
    simp only [List.length_append] at hlength ⊢
    simp only [partition]
    omega
  · exact le_rfl

/-- What `urlparse` makes of a URL that `urlsplit` splits. -/
theorem urlparse_of_urlsplit [TextTables] {split : SplitResult} (h : urlsplit url = .ok split) :
    ∃ result, urlparse url = .ok result ∧ result.scheme = split.scheme ∧
      result.netloc = split.netloc ∧ result.query = split.query ∧
      result.fragment = split.fragment ∧ result.path.length ≤ split.path.length ∧
      (';' ∉ (split.path.rcut (· == '/')).2 → result.path = split.path) := by
  simp only [urlparse, h, bind, Except.bind]
  split
  · refine ⟨_, rfl, rfl, rfl, rfl, rfl, length_fst_splitparams_le split.path, fun hsegment => ?_⟩
    rw [splitparams, if_neg (by simpa using hsegment)]
  · exact ⟨_, rfl, rfl, rfl, rfl, rfl, le_rfl, fun _ => rfl⟩

theorem urlsplit_of_urlparse [TextTables] {result : ParseResult} (h : urlparse url = .ok result) :
    ∃ split, urlsplit url = .ok split := by
  obtain ⟨split, hsplit, -⟩ := Except.bind_eq_ok.1 h
  exact ⟨split, hsplit⟩

/-- Without their delimiters there is no query and no fragment. -/
theorem query_fragment_of_notMem [TextTables] {split : SplitResult} (h : urlsplit url = .ok split)
    (hquery : '?' ∉ url) (hfragment : '#' ∉ url) : split.query = [] ∧ split.fragment = [] := by
  obtain ⟨-, -, rfl⟩ := urlsplit_eq_ok.1 h
  have hnot {c : Char} (hc : c ∉ url) : c ∉ (location url).2 :=
    fun hmem => hc ((snd_location_sublist url).subset hmem)
  rw [splitPath_of_notMem (hnot hquery) (hnot hfragment)]
  exact ⟨rfl, rfl⟩

theorem isRemoved_of_notMem {c : Char} (h : c ∉ "/?#;\t\r\n".toList) : isRemoved c = false := by
  have hmem : ∀ d : Char, isRemoved d = true → d ∈ "/?#;\t\r\n".toList := by
    intro d hd
    simp only [isRemoved, Bool.or_eq_true, beq_iff_eq] at hd
    rcases hd with (rfl | rfl) | rfl <;> decide
  exact Bool.eq_false_iff.2 fun hc => h (hmem c hc)

section Append

variable [TextTables] {split : SplitResult} (h : urlsplit url = .ok split)
  (hscheme : split.scheme ≠ []) (hnetloc : split.netloc ≠ [])

include h hscheme hnetloc

/-- What is appended to a URL without query and fragment goes to the end of its path. -/
theorem urlparse_append (before segment : Text) (hquery : '?' ∉ url) (hfragment : '#' ∉ url)
    (hbefore : ∀ c ∈ before, isRemoved c = false ∧ c ≠ '?' ∧ c ≠ '#')
    (hsegment : ∀ c ∈ segment, c ∉ "/?#;\t\r\n".toList) :
    ∃ result, urlparse (url ++ '/' :: (before ++ '/' :: segment)) = .ok result ∧
      result.netloc = split.netloc ∧ '/' :: segment <:+ result.path := by
  obtain ⟨hbrackets, hchecked, rfl⟩ := urlsplit_eq_ok.1 h
  have hne {c d : Char} (hc : c ∈ segment) (hd : d ∈ "/?#;\t\r\n".toList) : c ≠ d := by
    rintro rfl
    exact hsegment c hc hd
  have hrest : ∀ c ∈ before ++ '/' :: segment, isRemoved c = false ∧ c ≠ '?' ∧ c ≠ '#' := by
    intro c hc
    rcases List.mem_append.1 hc with hc | hc
    · exact hbefore c hc
    · rcases List.mem_cons.1 hc with rfl | hc
      · decide
      · exact ⟨isRemoved_of_notMem (hsegment c hc), hne hc (by decide), hne hc (by decide)⟩
  have hkept : ∀ c ∈ before ++ '/' :: segment, isRemoved c = false := fun c hc => (hrest c hc).1
  obtain ⟨hscheme', hlocation⟩ := location_append hscheme hnetloc hkept
  have hnot {c : Char} (hurl : c ∉ url) (hslash : c ≠ '/')
      (hc : ∀ d ∈ before ++ '/' :: segment, d ≠ c) :
      c ∉ (location url).2 ++ '/' :: (before ++ '/' :: segment) := by
    intro hmem
    rcases List.mem_append.1 hmem with hmem | hmem
    · exact hurl ((snd_location_sublist url).subset hmem)
    · rcases List.mem_cons.1 hmem with hmem | hmem
      · exact hslash hmem
      · exact hc c hmem rfl
  have hpath := splitPath_of_notMem (hnot hquery (by decide) fun d hd => (hrest d hd).2.1)
    (hnot hfragment (by decide) fun d hd => (hrest d hd).2.2)
  have hsplit' : urlsplit (url ++ '/' :: (before ++ '/' :: segment)) =
      .ok ⟨(splitScheme (clean url)).1, (location url).1,
        (location url).2 ++ '/' :: (before ++ '/' :: segment), [], []⟩ := by
    rw [urlsplit_eq_ok, hlocation, hscheme', hpath]
    exact ⟨hbrackets, hchecked, rfl⟩
  obtain ⟨result, hresult, -, hnetloc', -, -, -, hsame⟩ := urlparse_of_urlsplit hsplit'
  refine ⟨result, hresult, hnetloc', ?_⟩
  -- the last segment of the path has no parameters
  have hlast : ((location url).2 ++ '/' :: (before ++ '/' :: segment)).rcut (· == '/') =
      ((location url).2 ++ '/' :: before ++ ['/'], segment) := by
    rw [← List.cons_append, ← List.append_assoc]
    exact List.rcut_append_cons rfl fun c hc =>
      beq_eq_false_iff_ne.2 (hne hc (by decide))
  rw [hsame (by rw [hlast]; exact fun hc => hne hc (by decide) rfl)]
  exact ⟨(location url).2 ++ '/' :: before, by simp⟩

/-- If a query or a fragment has begun, nothing that is appended goes to the path. -/
theorem length_path_urlparse_append_le {result : ParseResult} {rest : Text}
    (hbegun : '?' ∈ url ∨ '#' ∈ url) (hrest : ∀ c ∈ rest, isRemoved c = false)
    (hresult : urlparse (url ++ '/' :: rest) = .ok result) : result.path.length ≤ url.length := by
  obtain ⟨-, -, rfl⟩ := urlsplit_eq_ok.1 h
  obtain ⟨-, hlocation⟩ := location_append hscheme hnetloc hrest
  obtain ⟨split', hsplit'⟩ := urlsplit_of_urlparse hresult
  obtain ⟨result', hresult', -, -, -, -, hle, -⟩ := urlparse_of_urlsplit hsplit'
  obtain rfl := Except.ok.inj (hresult.symm.trans hresult')
  obtain ⟨-, -, rfl⟩ := urlsplit_eq_ok.1 hsplit'
  -- the query or the fragment begins before the part that is appended
  have hbegun' : '?' ∈ (location url).2 ∨ '#' ∈ (location url).2 :=
    hbegun.imp (mem_snd_location (.inl rfl) hscheme hnetloc)
      (mem_snd_location (.inr rfl) hscheme hnetloc)
  have hpath : (splitPath ((location url).2 ++ '/' :: rest)).1.length ≤ (location url).2.length :=
    length_fst_splitPath_append_le hbegun'
  rw [hlocation] at hle
  exact hle.trans (hpath.trans (snd_location_sublist url).length_le)

/-- Whatever is appended behind a slash, the scheme and the network location stay. -/
theorem urlparse_append_slash (rest : Text) :
    ∃ result, urlparse (url ++ '/' :: rest) = .ok result ∧ result.scheme = split.scheme ∧
      result.netloc = split.netloc := by
  obtain ⟨hbrackets, hchecked, rfl⟩ := urlsplit_eq_ok.1 h
  -- what `clean` keeps of a URL with a scheme is not empty, so it goes on with what it keeps of
  -- the rest
  have hclean : clean (url ++ '/' :: rest) = clean (url ++ '/' :: rest.filter (!isRemoved ·)) := by
    have hdrop : url.dropWhile isC0ControlOrSpace ≠ [] := by
      intro hnil
      rw [clean, hnil] at hscheme
      exact hscheme rfl
    have hslash : isRemoved '/' = false := rfl
    simp [clean, List.dropWhile_append, hdrop, hslash]
  have hkept : ∀ c ∈ rest.filter (!isRemoved ·), isRemoved c = false := by
    intro c hc
    simpa using (List.mem_filter.1 hc).2
  obtain ⟨hscheme', hlocation⟩ := location_append hscheme hnetloc hkept
  rw [← hclean] at hscheme'
  rw [location, ← hclean, ← location] at hlocation
  have hsplit' := (@urlsplit_eq_ok _ (url ++ '/' :: rest) _).2
    ⟨by rwa [hlocation], by rwa [hlocation], rfl⟩
  obtain ⟨result, hresult, hresultScheme, hresultNetloc, -⟩ := urlparse_of_urlsplit hsplit'
  refine ⟨result, hresult, hresultScheme.trans hscheme', ?_⟩
  rw [hresultNetloc, hlocation]

end Append

end Python.Url
