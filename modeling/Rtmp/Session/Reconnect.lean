import Rtmp.Lib.Decimal
import Rtmp.Lib.Split
import Rtmp.Session.Negotiation

/-!
The addresses of a reconnect: the URL that is dialled, and the reference a server sends.

* `ParsedUrl`, `RtmpUrl.parse`: a URL and its parts;
* `resolveTcUrl`: a reference against the `tcUrl` of the connection;
* `parse_eq_ok_iff`, `exists_authority`: the parts by what they contain no slash of;
* `resolveTcUrl_eq`: what a reference that is not taken as it is becomes;
* `parse_target_iff`: when the key that is put behind a target is found again;
* **`reconnect_dialable_iff`**: the references that can be dialled with a key behind them are the empty
  one, those of one path segment, and those of a host and one path segment.
-/

namespace Rtmp

open Split

deriving instance DecidableEq for RtmpUrl

/-- What is dialled, and where. -/
structure ParsedUrl extends RtmpUrl where
  host : String
  port : UInt16
  deriving DecidableEq

/-- The part of a URL that says what it is, and the one that ends a scheme. -/
def rtmpScheme : List Char := "rtmp://".toList

def schemeEnd : List Char := "://".toList

def defaultPort : UInt16 := 1935

/-- A host, and a port behind the last colon. -/
def parseAuthority (authority : List Char) : Except Error (String × UInt16) :=
  match rsplitOnce ':' authority with
  | some (h, p) =>
      match Decimal.parse 65536 (String.ofList p) with
      | .ok port => .ok (String.ofList h, UInt16.ofNat port)
      | .error e => .error (.other ("rtmp URL bad port: " ++ e.display))
  | none => .ok (String.ofList authority, defaultPort)

/-- The first segment of a path, and the rest of it. -/
def splitPath (path : List Char) : List Char × List Char :=
  match splitOnce '/' path with
  | some (app, streamName) => (app, streamName)
  | none => (path, [])

def RtmpUrl.parse (url : String) : Except Error ParsedUrl :=
  if rtmpScheme <+: url.toList then
    match splitOnce '/' (url.toList.drop rtmpScheme.length) with
    | some (authority, path) => do
        let (host, port) ← parseAuthority authority
        let (app, streamName) := splitPath path
        pure
          { host, port, app := String.ofList app, streamName := String.ofList streamName
            tcUrl := String.ofList (rtmpScheme ++ authority ++ '/' :: app) }
    | none => .error (.other "missing /app in rtmp URL")
  else .error (.other ("not an rtmp:// URL: " ++ url))

/-- A path up to its last slash, that included. -/
def directory (basePath : List Char) : List Char :=
  match rsplitOnce '/' basePath with
  | some (dir, _) => dir ++ ['/']
  | none => ['/']

/-- A reference, taken as it is if there is a scheme in it. -/
def resolveTcUrl (base reference : String) : String :=
  if reference = "" then base
  else if schemeEnd <:+: reference.toList then reference
  else
    let (scheme, afterScheme) := (splitAtInfix schemeEnd base.toList).getD ("rtmp".toList, base.toList)
    if ['/', '/'] <+: reference.toList then
      String.ofList (scheme ++ schemeEnd ++ reference.toList.drop 2)
    else
      let (authority, basePath) :=
        match splitOnce '/' afterScheme with
        | some (authority, path) => (authority, '/' :: path)
        | none => (afterScheme, [])
      if ['/'] <+: reference.toList then
        String.ofList (scheme ++ schemeEnd ++ authority ++ reference.toList)
      else String.ofList (scheme ++ schemeEnd ++ authority ++ directory basePath ++ reference.toList)

/-- Either no port, or a number that fits in one behind the last colon. -/
def HasPort (authority : List Char) : Prop :=
  ∀ h p, authority = h ++ ':' :: p → ':' ∉ p → ∃ n < 65536, Decimal.Spells (String.ofList p) n

/-- The references of one path segment: behind the `tcUrl`, behind a host of the reference's own, and
behind the one that is there already. -/
def Dialable (reference : String) : Prop :=
  (∃ authority app, reference.toList = '/' :: '/' :: (authority ++ '/' :: app) ∧ '/' ∉ authority ∧
      '/' ∉ app ∧ HasPort authority) ∨
    (∃ app, reference.toList = '/' :: app ∧ '/' ∉ app) ∨ '/' ∉ reference.toList

/-- What is resolved can be dialled with a key behind it: the key is found again, and so is what was
resolved, on the same host unless the reference has one. -/
def Dials (base : ParsedUrl) (reference key : String) : Prop :=
  ∃ u, RtmpUrl.parse (resolveTcUrl base.tcUrl reference ++ "/" ++ key) = .ok u ∧ u.streamName = key ∧
    (¬ ['/', '/'] <+: reference.toList → u.host = base.host ∧ u.port = base.port) ∧
    u.tcUrl = resolveTcUrl base.tcUrl reference

/-! ### The parts of a URL -/

lemma exists_parseAuthority_iff {authority : List Char} :
    (∃ host port, parseAuthority authority = .ok (host, port)) ↔ HasPort authority := by
  rw [HasPort]
  cases hsplit : rsplitOnce ':' authority with
  | none =>
      have hcolon := rsplitOnce_eq_none_iff.mp hsplit
      refine iff_of_true ⟨_, _, by rw [parseAuthority, hsplit]⟩ fun h p hauthority _ => ?_
      exact absurd (hauthority ▸ List.mem_append_right h List.mem_cons_self) hcolon
  | some hp =>
      obtain ⟨h, p⟩ := hp
      obtain ⟨hauthority, hcolon⟩ := rsplitOnce_eq_some_iff.mp hsplit
      constructor
      · rintro ⟨host, port, hparse⟩ h' p' hauthority' hcolon'
        have hsame : rsplitOnce ':' authority = some (h', p') :=
          rsplitOnce_eq_some_iff.mpr ⟨hauthority', hcolon'⟩
        rw [parseAuthority, hsame] at hparse
        cases hport : Decimal.parse 65536 (String.ofList p') with
        | error e => simp [hport] at hparse
        | ok n => exact ⟨n, (Decimal.parse_eq_ok_iff (by omega)).mp hport⟩
      · intro hport
        obtain ⟨n, hn⟩ := hport h p hauthority hcolon
        have hparse := (Decimal.parse_eq_ok_iff (by omega)).mpr hn
        exact ⟨String.ofList h, UInt16.ofNat n, by simp only [parseAuthority, hsplit, hparse]⟩

lemma splitPath_not_mem (path : List Char) : '/' ∉ (splitPath path).1 := by
  rw [splitPath]
  cases hsplit : splitOnce '/' path with
  | none => exact splitOnce_eq_none_iff.mp hsplit
  | some p => exact (splitOnce_eq_some_iff.mp hsplit).2

lemma parse_eq_ok_iff {url : String} {u : ParsedUrl} :
    RtmpUrl.parse url = .ok u ↔ ∃ authority path, url.toList = rtmpScheme
    ++ (authority ++ '/' :: path) ∧
      '/' ∉ authority ∧ parseAuthority authority = .ok (u.host, u.port) ∧
      u.app = String.ofList (splitPath path).1 ∧ u.streamName = String.ofList (splitPath path).2 ∧
      u.tcUrl = String.ofList (rtmpScheme ++ (authority ++ '/' :: (splitPath path).1)) := by
  rw [RtmpUrl.parse]
  constructor
  · intro h
    split_ifs at h with hscheme
    obtain ⟨rest, hrest⟩ := hscheme
    rw [← hrest, List.drop_left] at h
    cases hsplit : splitOnce '/' rest with
    | none =>
        rw [hsplit] at h
        cases h
    | some p =>
        obtain ⟨authority, path⟩ := p
        rw [hsplit] at h
        obtain ⟨⟨host, port⟩, hauthority, hu⟩ := Eff.except_bind_eq_ok.mp h
        cases hu
        obtain ⟨rfl, hslash⟩ := splitOnce_eq_some_iff.mp hsplit
        exact ⟨authority, path, hrest.symm, hslash, hauthority, rfl, rfl, rfl⟩
  · rintro ⟨authority, path, hurl, hslash, hauthority, happ, hstream, htc⟩
    rw [hurl, if_pos (List.prefix_append _ _), List.drop_left, splitOnce_append hslash]
    refine Eff.except_bind_eq_ok.mpr ⟨_, hauthority, congrArg Except.ok ?_⟩
    obtain ⟨⟨app, streamName, tcUrl⟩, host, port⟩ := u
    obtain rfl : app = _ := happ
    obtain rfl : streamName = _ := hstream
    obtain rfl : tcUrl = _ := htc
    rfl

/-- The `tcUrl` of a URL is its host and its first path segment. -/
lemma exists_authority {url : String} {u : ParsedUrl} (h : RtmpUrl.parse url = .ok u) :
    ∃ authority app, u.tcUrl.toList = rtmpScheme ++ (authority ++ '/' :: app) ∧ '/' ∉ authority ∧
      '/' ∉ app ∧ parseAuthority authority = .ok (u.host, u.port) := by
  obtain ⟨authority, path, -, hslash, hauthority, -, -, htc⟩ := parse_eq_ok_iff.mp h
  refine ⟨authority, (splitPath path).1, ?_, hslash, splitPath_not_mem path, hauthority⟩
  rw [htc, String.toList_ofList]

/-! ### What a reference becomes -/

/-- What the target of a reference is behind the scheme, on a connection to `authority` and `app`. -/
def target (authority app : List Char) (reference : String) : List Char :=
  if reference = "" then authority ++ '/' :: app
  else if ['/', '/'] <+: reference.toList then reference.toList.drop 2
  else if ['/'] <+: reference.toList then authority ++ reference.toList
  else authority ++ '/' :: reference.toList

lemma splitAtInfix_rtmpScheme (rest : List Char) :
    splitAtInfix schemeEnd (rtmpScheme ++ rest) = some ("rtmp".toList, rest) := by
  simp [splitAtInfix, schemeEnd, rtmpScheme, List.cons_prefix_cons]

/-- The path of a `tcUrl` has no directory but the root. -/
lemma directory_segment {app : List Char} (happ : '/' ∉ app) : directory ('/' :: app) = ['/'] := by
  have hsplit : rsplitOnce '/' ('/' :: app) = some ([], app) := rsplitOnce_eq_some_iff.mpr ⟨rfl, happ⟩
  rw [directory, hsplit]
  rfl

/-- A reference without a scheme in it becomes its target on the same scheme. -/
lemma resolveTcUrl_eq {base reference : String} {authority app : List Char}
    (hbase : base.toList = rtmpScheme ++ (authority ++ '/' :: app)) (hauthority : '/' ∉ authority)
    (happ : '/' ∉ app) (href : ¬ schemeEnd <:+: reference.toList) :
    (resolveTcUrl base reference).toList = rtmpScheme ++ target authority app reference := by
  have hscheme : "rtmp".toList ++ schemeEnd = rtmpScheme := rfl
  rw [resolveTcUrl, target]
  by_cases hempty : reference = ""
  · rw [if_pos hempty, if_pos hempty, hbase]
  · rw [if_neg hempty, if_neg hempty, if_neg href, hbase, splitAtInfix_rtmpScheme]
    simp only [Option.getD_some, hscheme, splitOnce_append hauthority, directory_segment happ]
    split_ifs
    · rw [String.toList_ofList]
    · rw [String.toList_ofList, List.append_assoc]
    · rw [String.toList_ofList]
      simp only [List.append_assoc, List.singleton_append]

/-! ### The shapes of a reference -/

lemma dialable_net {r : String} {rest : List Char} (hr : r.toList = '/' :: '/' :: rest) :
    Dialable r ↔ ∃ authority app, rest = authority ++ '/' :: app ∧ '/' ∉ authority ∧ '/' ∉ app ∧
      ∃ host port, parseAuthority authority = .ok (host, port) := by
  simp only [Dialable, exists_parseAuthority_iff, hr, List.cons.injEq, true_and]
  refine or_iff_left ?_
  rintro (⟨app, rfl, happ⟩ | hslash)
  · exact happ List.mem_cons_self
  · exact hslash List.mem_cons_self

lemma dialable_path {r : String} {rest : List Char} (hr : r.toList = '/' :: rest)
    (hnet : ¬ ['/', '/'] <+: r.toList) : Dialable r ↔ '/' ∉ rest := by
  rw [Dialable]
  constructor
  · rintro (⟨authority, app, hr', -⟩ | ⟨app, hr', happ⟩ | hslash)
    · exact absurd ⟨_, hr'.symm⟩ hnet
    · rw [hr, List.cons.injEq] at hr'
      rwa [hr'.2]
    · exact absurd (hr ▸ List.mem_cons_self) hslash
  · exact fun hrest => .inr (.inl ⟨rest, hr, hrest⟩)

lemma dialable_segment {r : String} (hpath : ¬ ['/'] <+: r.toList) :
    Dialable r ↔ '/' ∉ r.toList := by
  rw [Dialable]
  constructor
  · rintro (⟨authority, app, hr, -⟩ | ⟨app, hr, -⟩ | hslash)
    · exact absurd ⟨_, hr.symm⟩ hpath
    · exact absurd ⟨_, hr.symm⟩ hpath
    · exact hslash
  · exact fun hslash => .inr (.inr hslash)

/-! ### What can be dialled -/

/-- The URL of a target and a key is parsed into that key and that target just if the target is a host
with a port that can be parsed, and one path segment. -/
lemma parse_target_iff {t : List Char} {url k : String} {u : ParsedUrl}
    (hurl : url.toList = rtmpScheme ++ t ++ '/' :: k.toList) :
    (RtmpUrl.parse url = .ok u ∧ u.streamName = k ∧ u.tcUrl = String.ofList (rtmpScheme ++ t)) ↔
      ∃ authority app, t = authority ++ '/' :: app ∧ '/' ∉ authority ∧ '/' ∉ app ∧
        parseAuthority authority = .ok (u.host, u.port) ∧ u.app = String.ofList app ∧
        u.streamName = k ∧ u.tcUrl = String.ofList (rtmpScheme ++ t) := by
  rw [parse_eq_ok_iff]
  constructor
  · rintro ⟨⟨authority, path, -, hslash, hauthority, happ, -, htc⟩, hstream, htarget⟩
    have ht : t = authority ++ '/' :: (splitPath path).1 := by
      rw [htarget, String.ofList_inj] at htc
      exact List.append_cancel_left htc
    exact ⟨authority, (splitPath path).1, ht, hslash, splitPath_not_mem path, hauthority, happ, hstream,
      htarget⟩
  · rintro ⟨authority, app, rfl, hslash, happ, hauthority, hu, hstream, htarget⟩
    have hpath : splitPath (app ++ '/' :: k.toList) = (app, k.toList) := by
      rw [splitPath, splitOnce_append happ]
    refine ⟨⟨authority, app ++ '/' :: k.toList, ?_, hslash, hauthority, ?_, ?_, ?_⟩, hstream, htarget⟩
    · simp only [hurl, List.append_assoc, List.cons_append]
    · rw [hpath, hu]
    · rw [hpath, hstream, String.ofList_toList]
    · rw [hpath, htarget]

lemma two_le_count {l : List Char} (h : schemeEnd <:+: l) : 2 ≤ l.count '/' := by
  have hcount : schemeEnd.count '/' = 2 := by decide
  exact hcount ▸ h.sublist.count_le '/'

/-- A reference that can be dialled has no scheme in it. -/
lemma Dialable.not_schemeEnd {r : String} (h : Dialable r) : ¬ schemeEnd <:+: r.toList := by
  rcases h with ⟨authority, app, hr, hauthority, happ, -⟩ | ⟨app, hr, happ⟩ | hr
  · rw [hr, List.infix_cons_iff, List.infix_cons_iff]
    rintro (hpre | hpre | hin)
    · exact absurd (List.cons_prefix_cons.mp hpre).1 (by decide)
    · exact absurd (List.cons_prefix_cons.mp hpre).1 (by decide)
    · have hcount := two_le_count hin
      simp [List.count_eq_zero.mpr hauthority, List.count_eq_zero.mpr happ] at hcount
  · intro hin
    have hcount := two_le_count hin
    simp [hr, List.count_eq_zero.mpr happ] at hcount
  · intro hin
    have hcount := two_le_count hin
    simp [List.count_eq_zero.mpr hr] at hcount

/-- A reference with a scheme in it, but not that of the protocol in front, cannot be dialled. -/
lemma not_dials_of_schemeEnd {base : ParsedUrl} {r k : String} (hscheme : ¬ rtmpScheme <+: r.toList)
    (hin : schemeEnd <:+: r.toList) : ¬ Dials base r k := by
  have hne : r ≠ "" := by
    rintro rfl
    exact absurd (two_le_count hin) (by decide)
  rintro ⟨u, hparse, -⟩
  rw [resolveTcUrl, if_neg hne, if_pos hin] at hparse
  obtain ⟨authority, path, hurl, -⟩ := parse_eq_ok_iff.mp hparse
  have hpre : rtmpScheme <+: r.toList ++ '/' :: k.toList :=
    ⟨authority ++ '/' :: path, by rw [← hurl]; simp⟩
  rcases List.prefix_or_prefix_of_prefix hpre (List.prefix_append r.toList _) with hshort | hlong
  · exact hscheme hshort
  · have hshort : r.toList <+: "rtmp:/".toList := by
      rcases List.prefix_concat_iff.mp (show r.toList <+: "rtmp:/".toList ++ ['/'] from hlong) with
        heq | hpre
      · exact absurd (heq ▸ List.prefix_refl _) hscheme
      · exact hpre
    exact absurd (two_le_count (hin.trans hshort.isInfix)) (by decide)

/-- What is resolved against the base can be dialled just if its target is a host that has a port, the
base's unless the reference has one, and one path segment. -/
lemma dials_iff_target {base : ParsedUrl} {r k : String} {authority app : List Char}
    (hbase : base.tcUrl.toList = rtmpScheme ++ (authority ++ '/' :: app)) (hauthority : '/' ∉ authority)
    (happ : '/' ∉ app) (href : ¬ schemeEnd <:+: r.toList) :
    Dials base r k ↔ ∃ authority' app', target authority app r = authority' ++ '/' :: app' ∧
      '/' ∉ authority' ∧ '/' ∉ app' ∧ ∃ host port, parseAuthority authority' = .ok (host, port) ∧
        (¬ ['/', '/'] <+: r.toList → host = base.host ∧ port = base.port) := by
  have hresolve := resolveTcUrl_eq hbase hauthority happ href
  have hurl : (resolveTcUrl base.tcUrl r ++ "/" ++ k).toList =
      rtmpScheme ++ target authority app r ++ '/' :: k.toList := by
    simp [hresolve]
  have htc : resolveTcUrl base.tcUrl r = String.ofList (rtmpScheme ++ target authority app r) := by
    rw [← hresolve, String.ofList_toList]
  constructor
  · rintro ⟨u, hparse, hstream, hhost, hu⟩
    obtain ⟨authority', app', ht, hauthority', happ', hport, -⟩ :=
      (parse_target_iff hurl).mp ⟨hparse, hstream, hu.trans htc⟩
    exact ⟨authority', app', ht, hauthority', happ', u.host, u.port, hport, hhost⟩
  · rintro ⟨authority', app', ht, hauthority', happ', host, port, hport, hhost⟩
    obtain ⟨hparse, hstream, hu⟩ :=
      (parse_target_iff (u := ⟨⟨String.ofList app', k, _⟩, host, port⟩) hurl).mpr
        ⟨authority', app', ht, hauthority', happ', hport, rfl, rfl, rfl⟩
    exact ⟨_, hparse, hstream, hhost, hu.trans htc.symm⟩

/-- **Reconnect targets are dialable** where they are one path segment: a reference that does not begin
as a URL of the protocol can be dialled with a key behind it if and only if it is empty or one segment,
behind a host of its own or behind that of the connection. -/
theorem reconnect_dialable_iff {url r : String} {base : ParsedUrl} (k : String)
    (hbase : RtmpUrl.parse url = .ok base) (hscheme : ¬ rtmpScheme <+: r.toList) :
    Dials base r k ↔ Dialable r := by
  by_cases hin : schemeEnd <:+: r.toList
  · exact iff_of_false (not_dials_of_schemeEnd hscheme hin) fun h => h.not_schemeEnd hin
  obtain ⟨authority, app, htc, hauthority, happ, hport⟩ := exists_authority hbase
  rw [dials_iff_target htc hauthority happ hin]
  -- on the host of the connection, what is behind it is the segment
  have hsame : ∀ {rest : List Char}, ¬ ['/', '/'] <+: r.toList →
      ((∃ authority' app', authority ++ '/' :: rest = authority' ++ '/' :: app' ∧ '/' ∉ authority' ∧
        '/' ∉ app' ∧ ∃ host port, parseAuthority authority' = .ok (host, port) ∧
          (¬ ['/', '/'] <+: r.toList → host = base.host ∧ port = base.port)) ↔ '/' ∉ rest) := by
    intro rest hnet
    constructor
    · rintro ⟨authority', app', ht, hauthority', happ', -⟩
      rwa [(Split.cut_unique ht hauthority hauthority').2]
    · intro hrest
      exact ⟨authority, rest, rfl, hauthority, hrest, _, _, hport, fun _ => ⟨rfl, rfl⟩⟩
  by_cases hempty : r = ""
  · rw [target, if_pos hempty, hsame (by simp [hempty]), dialable_segment (by simp [hempty])]
    simp [hempty, happ]
  by_cases hnet : ['/', '/'] <+: r.toList
  · obtain ⟨rest, hr⟩ := hnet
    rw [target, if_neg hempty, if_pos ⟨rest, hr⟩, dialable_net hr.symm, ← hr]
    simp
  by_cases hpath : ['/'] <+: r.toList
  · obtain ⟨rest, hr⟩ := hpath
    rw [target, if_neg hempty, if_neg hnet, if_pos ⟨rest, hr⟩, dialable_path hr.symm hnet]
    simpa [← hr] using hsame hnet
  · rw [target, if_neg hempty, if_neg hnet, if_neg hpath, hsame hnet, dialable_segment hpath]

/-- A reference of one segment, on a connection with a port. -/
theorem reconnect_dialable_segment :
    ∃ base, RtmpUrl.parse "rtmp://h:1936/app/s" = .ok base ∧ Dials base "other?a=1" "k" := by
  have hparse : RtmpUrl.parse "rtmp://h:1936/app/s"
      = .ok ⟨⟨"app", "s", "rtmp://h:1936/app"⟩, "h", 1936⟩ := by decide +kernel
  have hsegment : Dialable "other?a=1" := .inr (.inr (by decide))
  exact ⟨_, hparse, (reconnect_dialable_iff "k" hparse (by decide)).mpr hsegment⟩

/-- **Two segments**: the second is found again in front of the key. -/
theorem reconnect_dialable_not_nested :
    ¬ ∀ (url r k : String) (base : ParsedUrl), RtmpUrl.parse url = .ok base →
      ¬ rtmpScheme <+: r.toList → '/' ∉ k.toList → Dials base r k := by
  intro h
  obtain ⟨u, hparse, hstream, -⟩ := h "rtmp://h/app/s" "/a/b" "k"
    ⟨⟨"app", "s", "rtmp://h/app"⟩, "h", 1935⟩ (by decide +kernel) (by decide) (by decide)
  have hfound : RtmpUrl.parse "rtmp://h/a/b/k" = .ok ⟨⟨"a", "b/k", "rtmp://h/a"⟩, "h", 1935⟩ := by
    decide +kernel
  have htarget : resolveTcUrl "rtmp://h/app" "/a/b" ++ "/" ++ "k" = "rtmp://h/a/b/k" := by
    decide +kernel
  rw [htarget, hfound] at hparse
  cases hparse
  exact absurd hstream (by decide)

end Rtmp
