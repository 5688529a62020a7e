/-
The static files of the shell host (`server/host/ChatShellHost.js`).

What a request asks for is resolved against the UI root, and is served if it is a file and two texts
begin as they should: that of the path with that of the root, and that of where the path really leads
with that of where the root really is. A text comparison does not see where a name ends, so what
stands in a directory beside the root, whose name begins with the root's, passes both
(`contained_iff`).

Paths are those of a POSIX system.
-/
import RezChat.Lib.Paths
import RezChat.Lib.Texts

set_option autoImplicit false

namespace RezChat.Host

open Paths Texts String

/-! ## The file system -/

/-- A file system, as it stands while a request is answered. `realpath` follows all links, and is
where a path leads to; what it leads to has no links in it. -/
structure FileSystem where
  realpath : Path → Option Path
  real : ∀ p q, realpath p = some q → realpath q = some q
  /-- What is in the regular file that is really there. -/
  content : Path → Option String

namespace FileSystem

/-- `fs.readFile`. -/
def readFile (fs : FileSystem) (p : Path) : Option String := (fs.realpath p).bind fs.content

/-- `fs.stat` and `isFile`, which follow links too. -/
def isFile (fs : FileSystem) (p : Path) : Bool := (fs.readFile p).isSome

end FileSystem

/-! ## Requests -/

/-- A host, with the working directory of its process and the texts that it answers with. -/
structure ChatShellHost where
  cwd : Path
  uiRoot : String
  configPatch : String
  e2eDebug : Bool

/-- A request. The pathname is what is parsed from its target, if it can be parsed. -/
structure Request where
  host : Option String
  method : String
  pathname : Option String

inductive Response
  /-- No body. -/
  | status (code : Nat)
  /-- What is known of the server's health. -/
  | health
  /-- The keystore endpoints are gone. -/
  | gone
  /-- The configuration, without the token. -/
  | config
  /-- A file, and the path that it was read from. -/
  | file (read : Path) (contentType : String) (body : String)
  deriving DecidableEq

/-- The host name without its port. -/
def withoutPort (s : List Char) : List Char :=
  let digits := s.reverse.takeWhile Char.isDigit
  match digits, s.reverse.drop digits.length with
  | _ :: _, ':' :: rest => rest.reverse
  | _, _ => s

/-- `#isLoopbackHost`. -/
def isLoopbackHost (hostHeader : Option String) : Bool :=
  match hostHeader with
  | none => false
  | some header =>
    ofList ((withoutPort header.toList).map Char.toLower) ∈
      ["127.0.0.1", "localhost", "::1", "[::1]"]

/-- `#normalizePathname`. -/
def normalizePathname (pathname : Option String) : String :=
  match pathname with
  | none => "/"
  | some pathname => if pathname = "" then "/" else pathname

/-- `path.extname` of the last name: from its last dot on, unless that is where it begins. -/
def extname (p : Path) : List Char :=
  match p.getLast? with
  | none => []
  | some name =>
    let behind := name.chars.reverse.takeWhile (· ≠ '.')
    if behind.length + 1 < name.chars.length then '.' :: behind.reverse else []

def mimeByExt : List (String × String) :=
  [(".html", "text/html; charset=utf-8"), (".js", "application/javascript; charset=utf-8"),
    (".css", "text/css; charset=utf-8"), (".json", "application/json; charset=utf-8"),
    (".svg", "image/svg+xml"), (".png", "image/png"), (".jpg", "image/jpeg"),
    (".jpeg", "image/jpeg"), (".ico", "image/x-icon"), (".woff", "font/woff"),
    (".woff2", "font/woff2")]

/-- What a replacement means to `String.prototype.replace`, for a pattern that is a string: a dollar
sign with one of four characters behind it stands for itself, the match, and what is before and
behind it. -/
def expand (before pattern after : List Char) : List Char → List Char
  | '$' :: c :: s =>
    if c = '$' then '$' :: expand before pattern after s
    else if c = '&' then pattern ++ expand before pattern after s
    else if c.toNat = 96 then before ++ expand before pattern after s
    else if c.toNat = 39 then after ++ expand before pattern after s
    else '$' :: expand before pattern after (c :: s)
  | c :: s => c :: expand before pattern after s
  | [] => []

/-- `#injectConfig`. -/
def injectConfig (html configPatch : String) (e2eDebug : Bool) (nonce : String) : String :=
  let debugScript := if e2eDebug then "globalThis.__REZ_E2E_DEBUG__ = true;" else ""
  let nonceAttr := if nonce = "" then "" else " nonce=\"" ++ nonce ++ "\""
  let script := "<script" ++ nonceAttr ++ ">globalThis.__REZ_SHELL_CONFIG__ = " ++ configPatch ++
    ";globalThis.REZ_CONFIG = Object.assign(\x7b\x7d, globalThis.REZ_CONFIG || \x7b\x7d, " ++
      "globalThis.__REZ_SHELL_CONFIG__);" ++ debugScript ++ "</script>"
  match cut "</head>".toList html.toList with
  | some (before, after) => ofList (before ++
      expand before "</head>".toList after (script ++ "\n</head>").toList ++ after)
  | none => script ++ "\n" ++ html

namespace ChatShellHost

/-- `path.resolve` of the UI root. -/
def resolvedUiRoot (h : ChatShellHost) : Path := resolve h.cwd [h.uiRoot.toList]

/-- The path that a pathname is resolved to. -/
def resolvedPath (h : ChatShellHost) (pathname : String) : Path :=
  resolve h.cwd [h.uiRoot.toList,
    if pathname = "/" then "index.html".toList else pathname.toList.drop 1]

/-- Where the UI root really is, or where it is said to be if that cannot be told. -/
def realUiRoot (h : ChatShellHost) (fs : FileSystem) : Path :=
  (fs.realpath h.resolvedUiRoot).getD h.resolvedUiRoot

/-- The part of `#handleRequest` that answers with a static file. -/
def serveStatic (h : ChatShellHost) (fs : FileSystem) (nonce : String) (resolvedPath : Path) :
    Response :=
  if ¬ text h.resolvedUiRoot <+: text resolvedPath then .status 403
  else if ¬ fs.isFile resolvedPath then .status 404
  else
    match fs.realpath resolvedPath with
    | none => .status 403
    | some realPath =>
      if ¬ text (h.realUiRoot fs) <+: text realPath then .status 403
      else
        let ext := ofList ((extname resolvedPath).map Char.toLower)
        let contentType := (mimeByExt.lookup ext).getD "application/octet-stream"
        match fs.readFile resolvedPath with
        | none => .status 500
        | some bytes =>
          .file resolvedPath contentType
            (if ext = ".html" then injectConfig bytes h.configPatch h.e2eDebug nonce else bytes)

/-- `#handleRequest`, with the nonce that is drawn for it. -/
def handleRequest (h : ChatShellHost) (fs : FileSystem) (nonce : String) (req : Request) :
    Response :=
  let pathname := normalizePathname req.pathname
  if ¬ isLoopbackHost req.host then .status 403
  else if pathname = "/health" then .health
  else if (pathname = "/keystore/put" ∨ pathname = "/keystore/fetch") ∧ req.method = "POST" then .gone
  else if pathname = "/config" then .config
  else h.serveStatic fs nonce (h.resolvedPath pathname)

/-- **An answer stays inside the root**: a file that it was read from is really the UI root or below
it. -/
def Contained (h : ChatShellHost) (fs : FileSystem) : Response → Prop
  | .file read _ _ => ∃ q, fs.realpath read = some q ∧ h.realUiRoot fs <+: q
  | _ => True

/-- The request is for a static file. -/
def Static (req : Request) : Prop :=
  isLoopbackHost req.host = true ∧ normalizePathname req.pathname ≠ "/health" ∧
    ¬ ((normalizePathname req.pathname = "/keystore/put" ∨
      normalizePathname req.pathname = "/keystore/fetch") ∧ req.method = "POST") ∧
      normalizePathname req.pathname ≠ "/config"

/-- The path that is asked for is below the root or goes through a directory beside it, and leads to
a file in a directory beside where the root really is. -/
def Strays (h : ChatShellHost) (fs : FileSystem) (p : Path) : Prop :=
  (h.resolvedUiRoot <+: p ∨ Beside h.resolvedUiRoot p) ∧ fs.isFile p = true ∧
    ∃ q, fs.realpath p = some q ∧ Beside (h.realUiRoot fs) q

/-! ## What is served -/

theorem isFile_iff {fs : FileSystem} {p : Path} :
    fs.isFile p = true ↔ ∃ bytes, fs.readFile p = some bytes :=
  Option.isSome_iff_exists

/-- Which path is served, and when. -/
theorem serveStatic_file_iff (h : ChatShellHost) (fs : FileSystem) (nonce : String) (p read : Path) :
    (∃ contentType body, h.serveStatic fs nonce p = .file read contentType body) ↔
      read = p ∧ text h.resolvedUiRoot <+: text p ∧ fs.isFile p = true ∧
        ∃ q, fs.realpath p = some q ∧ text (h.realUiRoot fs) <+: text q := by
  unfold serveStatic
  by_cases hroot : text h.resolvedUiRoot <+: text p
  · rw [if_neg (not_not.2 hroot)]
    by_cases hfile : fs.isFile p = true
    · rw [if_neg (not_not.2 hfile)]
      obtain ⟨bytes, hbytes⟩ := isFile_iff.1 hfile
      rw [hbytes]
      cases hreal : fs.realpath p with
      | none => simp
      | some q =>
        dsimp only
        by_cases hbelow : text (h.realUiRoot fs) <+: text q
        · rw [if_neg (not_not.2 hbelow)]
          constructor
          · rintro ⟨contentType, body, heq⟩
            cases heq
            exact ⟨rfl, hroot, hfile, q, rfl, hbelow⟩
          · rintro ⟨rfl, -⟩
            exact ⟨_, _, rfl⟩
        · rw [if_pos hbelow]
          simp [hbelow]
    · rw [if_pos hfile]
      simp [hfile]
  · rw [if_pos hroot]
    simp [hroot]

/-- A request that is not for a static file is answered with none. -/
theorem handleRequest_file_iff (h : ChatShellHost) (fs : FileSystem) (nonce : String)
    (req : Request) (read : Path) :
    (∃ contentType body, h.handleRequest fs nonce req = .file read contentType body) ↔
      Static req ∧ ∃ contentType body, h.serveStatic fs nonce
        (h.resolvedPath (normalizePathname req.pathname)) = .file read contentType body := by
  unfold handleRequest Static
  dsimp only
  generalize h.serveStatic fs nonce (h.resolvedPath (normalizePathname req.pathname)) = served
  split
  · next hhost => simp [hhost]
  · next hhost =>
    split
    · next hhealth => simp [hhealth]
    · next hhealth =>
      split
      · next hgone => simp [hgone]
      · next hgone =>
        split
        · next hconfig => simp [hconfig]
        · next hconfig =>
          exact ⟨fun heq => ⟨⟨not_not.1 hhost, hhealth, hgone, hconfig⟩, heq⟩, fun heq => heq.2⟩

/-- **When an answer stays inside the root**: unless the request is for a static file and the path
that it asks for leads to a file in a directory beside the root, whose name begins with the root's. -/
theorem contained_iff (h : ChatShellHost) (fs : FileSystem) (nonce : String) (req : Request) :
    h.Contained fs (h.handleRequest fs nonce req) ↔
      ¬ (Static req ∧ h.Strays fs (h.resolvedPath (normalizePathname req.pathname))) := by
  have hserved := fun read => (h.handleRequest_file_iff fs nonce req read).trans
    (and_congr_right fun _ => h.serveStatic_file_iff fs nonce _ read)
  constructor
  · rintro hcontained ⟨hstatic, hroot, hfile, q, hq, hbeside⟩
    obtain ⟨contentType, body, heq⟩ := (hserved _).2 ⟨hstatic, rfl, text_isPrefix_iff.2 hroot, hfile,
      q, hq, text_isPrefix_iff.2 (.inr hbeside)⟩
    rw [heq] at hcontained
    obtain ⟨q', hq', hbelow⟩ := hcontained
    rw [hq, Option.some_inj] at hq'
    rw [← hq'] at hbelow
    exact hbeside.not_isPrefix hbelow
  · intro hstrays
    cases hres : h.handleRequest fs nonce req with
    | file read contentType body =>
      obtain ⟨hstatic, rfl, hroot, hfile, q, hq, hreal⟩ := (hserved read).1 ⟨contentType, body, hres⟩
      refine ⟨q, hq, (text_isPrefix_iff.1 hreal).resolve_right fun hbeside => ?_⟩
      exact hstrays ⟨hstatic, text_isPrefix_iff.1 hroot, hfile, q, hq, hbeside⟩
    | status code => trivial
    | health => trivial
    | gone => trivial
    | config => trivial

/-- **When all answers stay inside the root**: if no path that begins like the root's leads to a file
in a directory beside it. Each path can be asked for, with a slash before it. -/
theorem contained_all_iff (h : ChatShellHost) (fs : FileSystem) :
    (∀ nonce req, h.Contained fs (h.handleRequest fs nonce req)) ↔ ∀ p, ¬ h.Strays fs p := by
  constructor
  · intro hall p hstrays
    obtain ⟨rest, hrest⟩ : ∃ rest, text p = '/' :: rest := by
      cases p with
      | nil => exact ⟨[], rfl⟩
      | cons n p => exact ⟨n.chars ++ joined p, rfl⟩
    -- two slashes at its start keep the path apart from those that are not of a file
    have hne : ∀ s : String, (s.toList.drop 1).head? ≠ some '/' →
        ofList ('/' :: text p) ≠ s := by
      rintro s hs rfl
      rw [toList_ofList, hrest] at hs
      exact hs rfl
    have hpath : h.resolvedPath (ofList ('/' :: text p)) = p := by
      rw [resolvedPath, if_neg (hne "/" (by decide)), toList_ofList]
      exact resolveFrom_text _ p
    have hname : normalizePathname (some (ofList ('/' :: text p))) =
        ofList ('/' :: text p) := if_neg (hne "" (by decide))
    have hhost : isLoopbackHost (some "localhost") = true := by decide
    have hget : "GET" ≠ "POST" := by decide
    refine (h.contained_iff fs "" ⟨some "localhost", "GET", some (ofList ('/' :: text p))⟩).1
      (hall _ _) ⟨⟨hhost, ?_, fun hgone => hget hgone.2, ?_⟩, ?_⟩
    · rw [hname]
      exact hne "/health" (by decide)
    · rw [hname]
      exact hne "/config" (by decide)
    · rw [hname, hpath]
      exact hstrays
  · intro hnone nonce req
    exact (h.contained_iff fs nonce req).2 fun hstrays => hnone _ hstrays.2

end ChatShellHost

/-! ## A neighbour of the root -/

/-- A system with one file, and no links. -/
def oneFile (p : Path) (bytes : String) : FileSystem where
  realpath q := if q <+: p then some q else none
  real q r h := by
    split at h
    · next hq =>
      obtain rfl := Option.some_inj.1 h
      exact if_pos hq
    · cases h
  content q := if q = p then some bytes else none

/-- A host with its files in `/app/ui`. -/
def shell : ChatShellHost := ⟨[], "/app/ui", "\x7b\x7d", false⟩

/-- The file `/app/ui-old/key.txt`. -/
def disk : FileSystem := oneFile (resolve [] ["/app/ui-old/key.txt".toList]) "key"

/-- **A file beside the root is served.** The target `/.//app/ui-old/key.txt` has the pathname
`//app/ui-old/key.txt`. -/
theorem neighbour_served :
    ¬ shell.Contained disk (shell.handleRequest disk "nonce"
      ⟨some "localhost:3000", "GET", some "//app/ui-old/key.txt"⟩) := by
  have hserved : shell.handleRequest disk "nonce"
      ⟨some "localhost:3000", "GET", some "//app/ui-old/key.txt"⟩ =
        .file (resolve [] ["/app/ui-old/key.txt".toList]) "application/octet-stream" "key" := by
    decide
  rw [hserved]
  rintro ⟨q, hq, hbelow⟩
  have hreal : disk.realpath (resolve [] ["/app/ui-old/key.txt".toList]) =
      some (resolve [] ["/app/ui-old/key.txt".toList]) := by decide
  rw [hreal, Option.some_inj] at hq
  rw [← hq] at hbelow
  revert hbelow
  decide

end RezChat.Host
