/-
Fetching from a stranger's address (`#safeFetch` of `server/services/ServerLinksService.js`).

Before each hop the host of the URL is looked up, and the fetch is refused if one of the addresses is
private. What the check of an address lets through (`Links.Addresses`) is fetched from, so the fetches
are safe as long as the resolver spells the addresses as the check expects them
(`safeFetch_public`).
-/
import RezChat.Links.Addresses

set_option autoImplicit false

namespace RezChat.Links

open List

/-! ## The web -/

/-- A parsed URL. -/
structure Url where
  protocol : String
  username : String
  password : String
  hostname : String

structure Reply where
  status : Nat
  location : Option String

/-- What is outside: how URLs are parsed, and what the resolver and the servers answer at each hop. In a
parsed URL an IPv6 address stands between brackets, and that is no name that a resolver knows. -/
structure Web where
  parse : String → Option Url
  /-- A location, from a URL on. -/
  resolveUrl : String → String → Option String
  /-- The addresses of a host. -/
  lookup : Nat → String → Option (List (Option String))
  fetch : Nat → String → Option Reply
  enclosed : ∀ raw u, parse raw = some u → IpText.parseIpv6 u.hostname.toList = none
  bracketed : ∀ hop host, host.toList.head? = some '[' → lookup hop host = none

/-! ## The fetch -/

/-- `/^172\.(1[6-9]|2\d|3[01])\./`. -/
def isSecondPrivateRange (host : List Char) : Bool :=
  "172.".toList <+: host &&
    match host.drop 4 with
    | '1' :: c :: '.' :: _ => '6' ≤ c && c ≤ '9'
    | '2' :: c :: '.' :: _ => c.isDigit
    | '3' :: c :: '.' :: _ => c = '0' || c = '1'
    | _ => false

/-- `isSafeHttpUrl`. -/
def isSafeHttpUrl (w : Web) (raw : String) : Bool :=
  match w.parse raw with
  | none => false
  | some parsed =>
    let host := parsed.hostname.toList.map Char.toLower
    if parsed.protocol ≠ "http:" ∧ parsed.protocol ≠ "https:" then false
    else if parsed.username ≠ "" ∨ parsed.password ≠ "" then false
    else if host = [] ∨ host = "localhost".toList then false
    else if host ∈ ["0.0.0.0".toList, "::".toList, "::1".toList] then false
    else if "127.".toList <+: host then false
    else if "10.".toList <+: host then false
    else if "192.168.".toList <+: host then false
    else if "169.254.".toList <+: host then false
    else if isSecondPrivateRange host then false
    else if ".local".toList <:+ host ∨ ".internal".toList <:+ host then false
    else true

/-- `assertSafeUrlWithDns`. -/
def assertSafeUrlWithDns (w : Web) (hop : Nat) (rawUrl : String) : Except String Unit :=
  match w.parse rawUrl with
  | none => .error "Invalid URL"
  | some parsed =>
    let host := parsed.hostname.toList
    if isIP host ≠ 0 then
      if isPrivateIp host then .error "rejected_private_ip" else .ok ()
    else
      match w.lookup hop parsed.hostname with
      | none => .error "dns_lookup_failed"
      | some [] => .error "dns_no_records"
      | some addrs =>
        -- an entry without an address is passed over
        if addrs.any fun entry => entry.any fun address => isPrivateIp address.toList then
          .error "rejected_private_ip"
        else .ok ()

def maxRedirects : Nat := 3

/-- What was fetched from, with the number of the hop, and what came of it. -/
structure Fetched where
  urls : List (Nat × String)
  result : Except String Reply

/-- The loop of `#safeFetch`, with the redirects that are left. -/
def safeFetchFrom (w : Web) : Nat → String → Fetched
  | left, url =>
    let hop := maxRedirects - left
    match assertSafeUrlWithDns w hop url with
    | .error e => ⟨[], .error e⟩
    | .ok () =>
      match w.fetch hop url with
      | none => ⟨[(hop, url)], .error "fetch_error"⟩
      | some response =>
        if 300 ≤ response.status ∧ response.status < 400 then
          match response.location with
          | none => ⟨[(hop, url)], .ok response⟩
          | some "" => ⟨[(hop, url)], .ok response⟩
          | some location =>
            match left with
            | 0 => ⟨[(hop, url)], .error "too_many_redirects"⟩
            | left + 1 =>
              match w.resolveUrl location url with
              | none => ⟨[(hop, url)], .error "unsafe_redirect"⟩
              | some nextUrl =>
                if isSafeHttpUrl w nextUrl then
                  let rest := safeFetchFrom w left nextUrl
                  ⟨(hop, url) :: rest.urls, rest.result⟩
                else ⟨[(hop, url)], .error "unsafe_redirect"⟩
        else ⟨[(hop, url)], .ok response⟩

/-- `#safeFetch`. -/
def safeFetch (w : Web) (initialUrl : String) : Fetched := safeFetchFrom w maxRedirects initialUrl

/-! ## Where a fetch leads -/

/-- The host of the URL is the address, or is a name that the resolver has the address for. -/
def Reaches (w : Web) (hop : Nat) (url : String) (a : Address) : Prop :=
  ∃ u, w.parse url = some u ∧
    (denoted u.hostname.toList = some a ∨
      (∃ literal, u.hostname.toList = '[' :: literal ++ [']'] ∧ denoted literal = some a) ∨
      (denoted u.hostname.toList = none ∧ ∃ addrs address, w.lookup hop u.hostname = some addrs ∧
        some address ∈ addrs ∧ denoted address.toList = some a))

/-- The resolver spells hidden addresses in the way in which they are recognised. -/
def PlainAnswers (w : Web) : Prop :=
  ∀ hop host addrs address, w.lookup hop host = some addrs → some address ∈ addrs →
    ¬ Misspelled address.toList

/-! ## What is fetched from -/

theorem isIP_eq_zero_iff {addr : List Char} : isIP addr = 0 ↔ denoted addr = none := by
  unfold isIP denoted
  cases IpText.parseIpv4 addr with
  | some v => simp
  | none =>
    cases IpText.parseIpv6 addr with
    | some v => simp
    | none => simp

/-- What begins with a bracket is no IPv4 address. -/
theorem parseIpv4_bracket (s : List Char) : IpText.parseIpv4 ('[' :: s) = none := by
  cases h : IpText.parseIpv4 ('[' :: s) with
  | none => rfl
  | some v =>
    obtain ⟨a, b, c, d, hs, ha, -⟩ := IpText.parseIpv4_eq_some h
    obtain ⟨rest, hrest⟩ := Texts.splitOn_eq_cons '.' ('[' :: s)
    rw [hrest, takeWhile_cons_of_pos (by decide)] at hs
    obtain ⟨rfl, -⟩ := cons.inj hs
    have hdigit := all_eq_true.1 (IpText.number_octet ha).2.1 '[' mem_cons_self
    exact absurd hdigit (by decide)

/-- A private address that is not misspelled is told. -/
theorem isPrivateIp_of_private {addr : List Char} {a : Address} (h : denoted addr = some a)
    (hprivate : a.Private) (hplain : ¬ Misspelled addr) : isPrivateIp addr = true :=
  ((isPrivateIp_iff h).2 hplain).2 hprivate

/-- **A hop.** What passes the check leads to no private address. -/
theorem assertSafeUrlWithDns_public {w : Web} (hw : PlainAnswers w) {hop : Nat} {url : String}
    (h : assertSafeUrlWithDns w hop url = .ok ()) {a : Address} (ha : Reaches w hop url a) :
    ¬ a.Private := by
  intro hprivate
  obtain ⟨u, hu, hreach⟩ := ha
  have hv6 := w.enclosed url u hu
  rw [assertSafeUrlWithDns, hu] at h
  dsimp only at h
  rcases hreach with hhost | ⟨literal, hhost, -⟩ | ⟨hhost, addrs, address, haddrs, hmem, haddress⟩
  · -- the host is an IPv4 address
    have hplain : ¬ Misspelled u.hostname.toList := by
      rintro ⟨v, hv, -⟩
      rw [denoted] at hv
      split at hv
      · cases hv
      · rw [hv6] at hv
        cases hv
    have hip : isIP u.hostname.toList ≠ 0 := by
      rw [Ne, isIP_eq_zero_iff, hhost]
      exact Option.some_ne_none a
    rw [if_pos hip, isPrivateIp_of_private hhost hprivate hplain] at h
    cases h
  · -- the host is an IPv6 address, which is not found
    have hip : isIP u.hostname.toList = 0 := by
      rw [isIP_eq_zero_iff, denoted, hv6, hhost]
      rw [cons_append, parseIpv4_bracket]
      rfl
    rw [if_neg (not_not.2 hip), w.bracketed hop u.hostname (by rw [hhost]; rfl)] at h
    cases h
  · -- the host is a name
    rw [if_neg (not_not.2 (isIP_eq_zero_iff.2 hhost)), haddrs] at h
    have htold := isPrivateIp_of_private haddress hprivate (hw hop _ addrs address haddrs hmem)
    have hany : (addrs.any fun entry => entry.any fun address => isPrivateIp address.toList) =
        true := any_eq_true.2 ⟨some address, hmem, htold⟩
    cases addrs with
    | nil => cases hmem
    | cons entry rest =>
      dsimp only at h
      rw [if_pos hany] at h
      cases h

/-- What a hop fetches from passed the check, and what comes after it is fetched with one redirect
fewer. -/
theorem mem_safeFetchFrom {w : Web} {left : Nat} {url : String} {fetched : Nat × String}
    (h : fetched ∈ (safeFetchFrom w left url).urls) :
    assertSafeUrlWithDns w (maxRedirects - left) url = .ok () ∧
      (fetched = (maxRedirects - left, url) ∨
        ∃ left' nextUrl, left = left' + 1 ∧ fetched ∈ (safeFetchFrom w left' nextUrl).urls) := by
  rw [safeFetchFrom] at h
  cases hcheck : assertSafeUrlWithDns w (maxRedirects - left) url with
  | error e =>
    rw [hcheck] at h
    cases h
  | ok u =>
    refine ⟨rfl, ?_⟩
    rw [hcheck] at h
    dsimp only at h
    split at h
    · exact .inl (mem_singleton.1 h)
    · split at h
      · split at h
        · exact .inl (mem_singleton.1 h)
        · exact .inl (mem_singleton.1 h)
        · cases left with
          | zero => exact .inl (mem_singleton.1 h)
          | succ left' =>
            dsimp only at h
            split at h
            · exact .inl (mem_singleton.1 h)
            · next nextUrl _ =>
              split at h
              · rcases mem_cons.1 h with heq | hmem
                · exact .inl heq
                · exact .inr ⟨left', nextUrl, rfl, hmem⟩
              · exact .inl (mem_singleton.1 h)
      · exact .inl (mem_singleton.1 h)

/-- **The loop**, by the redirects that are left. -/
theorem safeFetchFrom_public {w : Web} (hw : PlainAnswers w) (left : Nat) (url : String) :
    ∀ fetched ∈ (safeFetchFrom w left url).urls, ∀ a, Reaches w fetched.1 fetched.2 a →
      ¬ a.Private := by
  induction left generalizing url with
  | zero =>
    intro fetched hmem a ha
    obtain ⟨hcheck, rfl | ⟨left', _, hleft, -⟩⟩ := mem_safeFetchFrom hmem
    · exact assertSafeUrlWithDns_public hw hcheck ha
    · cases hleft
  | succ left ih =>
    intro fetched hmem a ha
    obtain ⟨hcheck, rfl | ⟨left', nextUrl, hleft, hrest⟩⟩ := mem_safeFetchFrom hmem
    · exact assertSafeUrlWithDns_public hw hcheck ha
    · cases hleft
      exact ih nextUrl fetched hrest a ha

/-- What a fetch may do with so many redirects left: the hops are counted up, each is of a URL that
passed the check, and a redirect is not what it returns. -/
structure Checked (w : Web) (left : Nat) (f : Fetched) : Prop where
  hops : f.urls.map Prod.fst = range' (maxRedirects - left) f.urls.length
  bounded : f.urls.length ≤ left + 1
  passed : ∀ fetched ∈ f.urls, assertSafeUrlWithDns w fetched.1 fetched.2 = .ok ()
  final : ∀ response, f.result = .ok response → 300 ≤ response.status → response.status < 400 →
    response.location = none ∨ response.location = some ""

theorem Checked.one {w : Web} {left : Nat} {url : String} {result : Except String Reply}
    (hcheck : assertSafeUrlWithDns w (maxRedirects - left) url = .ok ())
    (hfinal : ∀ response, result = .ok response → 300 ≤ response.status → response.status < 400 →
      response.location = none ∨ response.location = some "") :
    Checked w left ⟨[(maxRedirects - left, url)], result⟩ := by
  refine ⟨rfl, by simp, fun fetched hmem => ?_, hfinal⟩
  rw [mem_singleton.1 hmem]
  exact hcheck

/-- The induction is on the redirects that are left. -/
theorem checked_safeFetchFrom (w : Web) (left : Nat) (url : String) (hleft : left ≤ maxRedirects) :
    Checked w left (safeFetchFrom w left url) := by
  fun_induction safeFetchFrom w left url with
  | case1 left url hop e hcheck => exact ⟨rfl, by simp, by simp, by simp⟩
  | case7 url response _ location _ _ left nextUrl _ _ rest hop hcheck _ ih =>
    have hrest := ih (Nat.le_of_succ_le hleft)
    have hhop : maxRedirects - left = hop + 1 := by omega
    refine ⟨?_, Nat.succ_le_succ hrest.bounded, ?_, hrest.final⟩
    · show hop :: rest.urls.map Prod.fst = range' hop (rest.urls.length + 1)
      rw [hrest.hops, hhop, range'_succ]
    · intro fetched hmem
      rcases mem_cons.1 hmem with rfl | hmem
      · exact hcheck
      · exact hrest.passed fetched hmem
  | _ =>
    -- the hop passed its check and is the last one: it failed, or what it answered is returned
    refine Checked.one (by assumption) fun reply hreply _ _ => ?_
    grind

/-- **Four fetches at most, each checked before.** Whatever pages and the resolver answer, the hops of
a fetch are numbered from 0, there are no more than four, the URL of each had passed the check, and
what is returned is no redirect. -/
theorem safeFetch_checked (w : Web) (url : String) : Checked w maxRedirects (safeFetch w url) :=
  checked_safeFetchFrom w maxRedirects url (Nat.le_refl _)

/-- **The check is exact, and the fetches are safe.** About every text that denotes an address the check
is right exactly if the text is not a misspelling of a hidden address; and as long as the resolver
answers with none, no fetch leads to a private address. -/
theorem addresses_exact (w : Web) (url : String) :
    (∀ addr a, denoted addr = some a →
      ((isPrivateIp addr = true ↔ a.Private) ↔ ¬ Misspelled addr)) ∧
      (PlainAnswers w → ∀ fetched ∈ (safeFetch w url).urls, ∀ a,
        Reaches w fetched.1 fetched.2 a → ¬ a.Private) :=
  ⟨fun _ _ h => isPrivateIp_iff h, fun hw => safeFetchFrom_public hw maxRedirects url⟩

/-- **Loopback in another spelling.** The loopback address with its groups written out is let
through. -/
theorem loopback_let_through :
    ¬ ∀ addr a, denoted addr = some a → (isPrivateIp addr = true ↔ a.Private) := by
  intro hall
  have hdenoted : denoted "0:0:0:0:0:0:0:1".toList = some (.v6 .loopback) := by decide
  have hcheck := (hall _ _ hdenoted).2 (.inl (.inr (.inl rfl)))
  have hfalse : isPrivateIp "0:0:0:0:0:0:0:1".toList = false := by decide
  rw [hfalse] at hcheck
  cases hcheck

/-- A web with one page. -/
def onePage : Web where
  parse raw := if raw = "http://page.example/" then some ⟨"http:", "", "", "page.example"⟩ else none
  resolveUrl _ _ := none
  lookup _ host := if host = "page.example" then some [some "93.184.216.34"] else none
  fetch _ _ := some ⟨200, none⟩
  enclosed raw u h := by
    split at h
    · cases h
      decide
    · cases h
  bracketed hop host h := by
    refine if_neg ?_
    rintro rfl
    exact absurd h (by decide)

theorem onePage_plain : PlainAnswers onePage := by
  rintro hop host addrs address haddrs hmem ⟨v, hv, -⟩
  have hpage : addrs = [some "93.184.216.34"] := by
    dsimp only [onePage] at haddrs
    split at haddrs
    · exact (Option.some_inj.1 haddrs).symm
    · cases haddrs
  rw [hpage, mem_singleton, Option.some_inj] at hmem
  have hv4 : denoted "93.184.216.34".toList = some (.v4 ⟨93, 184, 216, 34⟩) := by decide
  rw [hmem, hv4] at hv
  cases hv

/-- The page is fetched, and its address is not private. -/
theorem addresses_exact_page :
    ((isPrivateIp "::1".toList = true ↔ (Address.v6 .loopback).Private) ↔
      ¬ Misspelled "::1".toList) ∧
      (0, "http://page.example/") ∈ (safeFetch onePage "http://page.example/").urls ∧
        ¬ (Address.v4 ⟨93, 184, 216, 34⟩).Private :=
  ⟨(addresses_exact onePage "").1 _ _ (by decide), by decide,
    (addresses_exact onePage "http://page.example/").2 onePage_plain (0, "http://page.example/")
      (by decide) _ ⟨_, rfl, .inr (.inr ⟨by decide, _, _, rfl, mem_singleton.2 rfl, by decide⟩)⟩⟩

end RezChat.Links
