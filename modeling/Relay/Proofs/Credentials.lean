import Relay.Proofs.Dispatch
import Relay.Proofs.HeaderFlow

/-!
Where credentials go. A request that is sent on to another server goes without them. Whether a later one
has them again is up to the headers that it starts from. If they are those of the request just before,
credentials stay with the origin. If they are those of the first request, the credentials are back with
the second of two requests to one server, whoever that server is.
-/

namespace Relay

namespace Sent

def CarriesAuthorization (s : Sent) : Prop := ∃ x ∈ s.headers, Ascii.lower x.1 = "authorization"

def IsFor (s : Sent) (u : Url) : Prop :=
  s.url.host? = u.host? ∧ s.url.effectiveNumber? = u.effectiveNumber?

theorem IsFor.trans {a b : Sent} {u : Url} (h : b.IsFor a.url) (h' : a.IsFor u) : b.IsFor u :=
  ⟨h.1.trans h'.1, h.2.trans h'.2⟩

def AsksTunnel (s : Sent) (client : Client) : Prop :=
  client.useSystemProxy = true ∧ s.url.scheme = "https"

end Sent

/-- Something that held of the first request, or of the one just before. -/
def HeaderCopy.select (copy : HeaderCopy) (first previous : Prop) : Prop :=
  match copy with
  | .first => first
  | .previous => previous

/-- Where neighbours are related, what holds at the head holds throughout exactly if it is kept from
neighbour to neighbour. -/
theorem forall_mem_iff_isChain {α : Type} {P : α → Prop} {Q R : α → α → Prop} {l : List α}
    (hR : l.IsChain R) (h : ∀ a b, R a b → (P b ↔ Q a b)) (hhead : ∀ a ∈ l.head?, P a) :
    (∀ a ∈ l, P a) ↔ l.IsChain Q := by
  induction l with
  | nil => simp
  | cons a l ih =>
    obtain ⟨hnext, htail⟩ := List.isChain_cons.1 hR
    have ha : P a := hhead a rfl
    rw [List.forall_mem_cons, List.isChain_cons]
    constructor
    · rintro ⟨-, hall⟩
      refine ⟨fun b hb => (h a b (hnext b hb)).1 (hall b (List.mem_of_mem_head? hb)), ?_⟩
      exact (ih htail fun b hb => hall b (List.mem_of_mem_head? hb)).1 hall
    · rintro ⟨hfirst, hchain⟩
      exact ⟨ha, (ih htail fun b hb => (h a b (hnext b hb)).2 (hfirst b hb)).2 hchain⟩

namespace Client

/-! ### Servers -/

theorem sameServer_iff (u v : Url) :
    sameServer u v = true ↔ u.host? = v.host? ∧ u.effectiveNumber? = v.effectiveNumber? := by
  simp [sameServer]

theorem sameServer_iff_isFor (u : Url) (s : Sent) : sameServer u s.url = true ↔ s.IsFor u := by
  rw [sameServer_iff]
  exact and_congr eq_comm eq_comm

/-! ### What a redirect takes along -/

def HasCredentials (hs : Http.Headers) : Prop := ∃ x ∈ hs, x.1 = "authorization"

section

variable {copy : HeaderCopy} {hop : Hop} {status : UInt16} {url : Url} {x : String × Bytes}

theorem mem_original_nextHop (hname : x.1 = "authorization") :
    x ∈ (nextHop copy hop status url).original ↔ x ∈ hop.source copy := by
  refine ⟨mem_source_of_mem_nextHop, fun hx => ?_⟩
  unfold nextHop
  dsimp only
  split
  · -- credentials do not describe the body
    refine List.mem_filter.2 ⟨hx, ?_⟩
    rw [hname]
    decide
  · exact hx

theorem mem_headers_nextHop (hname : x.1 = "authorization") :
    x ∈ (nextHop copy hop status url).headers ↔ x ∈ hop.source copy ∧ sameServer hop.url url = true := by
  rw [← mem_original_nextHop hname]
  have hother : ∀ hs : Http.Headers, x ∈ hs → x ∈ hs.erase "referer" := by
    intro hs hx
    refine List.mem_filter.2 ⟨hx, ?_⟩
    rw [hname]
    decide
  constructor
  · intro hx
    rcases mem_original_of_mem_nextHop hx with hkept | hreferer
    · refine ⟨hkept, ?_⟩
      by_contra hserver
      -- the filter leaves no credentials
      unfold nextHop at hx
      simp only [if_neg hserver] at hx
      split at hx
      · rcases List.mem_append.1 hx with hold | hnew
        · simp [Http.Headers.erase, hname] at hold
        · rw [List.mem_singleton.1 hnew] at hname
          exact absurd hname (show ¬"referer" = "authorization" by decide)
      · simp [Http.Headers.erase, hname] at hx
    · rw [hname] at hreferer
      exact absurd hreferer (by decide)
  · rintro ⟨hx, hserver⟩
    unfold nextHop at hx ⊢
    simp only [if_pos hserver] at hx ⊢
    split
    · exact List.mem_append_left _ (hother _ hx)
    · exact hother _ hx

theorem hasCredentials_nextHop :
    HasCredentials (nextHop copy hop status url).headers ↔
      HasCredentials (hop.source copy) ∧ sameServer hop.url url = true := by
  unfold HasCredentials
  constructor
  · rintro ⟨x, hx, hname⟩
    obtain ⟨hmem, hserver⟩ := (mem_headers_nextHop hname).1 hx
    exact ⟨⟨x, hmem, hname⟩, hserver⟩
  · rintro ⟨⟨x, hx, hname⟩, hserver⟩
    exact ⟨x, (mem_headers_nextHop hname).2 ⟨hx, hserver⟩, hname⟩

/-- The credentials of a hop, and those it can send on, are among some values. -/
structure Guarded (values : Bytes → Prop) (hop : Hop) : Prop where
  names : hop.HasNames
  headers : ∀ x ∈ hop.headers, x.1 = "authorization" → values x.2
  original : ∀ x ∈ hop.original, x.1 = "authorization" → values x.2

theorem Guarded.nextHop {values : Bytes → Prop} (h : Guarded values hop) :
    Guarded values (nextHop copy hop status url) := by
  have hsource : ∀ x ∈ hop.source copy, x.1 = "authorization" → values x.2 := by
    cases copy with
    | first => exact h.original
    | previous => exact h.headers
  refine ⟨h.names.nextHop, fun x hx hname => ?_, fun x hx hname => ?_⟩
  · exact hsource x ((mem_headers_nextHop hname).1 hx).1 hname
  · exact hsource x (mem_source_of_mem_nextHop hx) hname

end

/-! ### What is sent -/

theorem mem_send_authorization {client : Client} {hop : Hop} (h : Named hop.headers) {x : String × Bytes}
    (hx : x ∈ (send client hop).headers) (hname : Ascii.lower x.1 = "authorization") :
    ∃ y ∈ hop.headers, y.1 = "authorization" ∧ y.2 = x.2 := by
  -- the names on the wire are few, and only one is spelled like it
  have hspelling : ∀ name ∈ wireNames, Ascii.lower (titleCase name) = "authorization" →
      name = "authorization" := by decide +kernel
  obtain ⟨y, hy, rfl⟩ := List.mem_map.1 hx
  have hwire : y ∈ wireHeaders client hop := List.mem_mergeSort.1 hy
  have hauthorization : y.1 = "authorization" := hspelling y.1 (wireHeaders_named h y hwire) hname
  refine ⟨y, ?_, hauthorization, rfl⟩
  -- the headers that every request has go by other names
  unfold wireHeaders at hwire
  simp only [List.cons_append, List.append_assoc, List.mem_cons, List.mem_append] at hwire
  rcases hwire with rfl | hmem | hmem | hmem | hmem
  · exact absurd hauthorization (show ¬"host" = "authorization" by decide)
  · exact hmem
  · split at hmem
    · simp at hmem
    · rw [List.mem_singleton.1 hmem] at hauthorization
      exact absurd hauthorization (show ¬"accept" = "authorization" by decide)
  · split at hmem
    · rw [List.mem_singleton.1 hmem] at hauthorization
      exact absurd hauthorization (show ¬"user-agent" = "authorization" by decide)
    · simp at hmem
  · split at hmem
    · simp at hmem
    · rw [List.mem_singleton.1 hmem] at hauthorization
      exact absurd hauthorization (show ¬"content-length" = "authorization" by decide)

theorem sendConnect_carries_nothing (client : Client) (hop : Hop) :
    ∀ x ∈ (sendConnect client hop).headers, Ascii.lower x.1 ≠ "authorization" := by
  have hnames : Ascii.lower "Host" ≠ "authorization" ∧ Ascii.lower "user-agent" ≠ "authorization" := by
    decide +kernel
  intro x hx
  unfold sendConnect at hx
  dsimp only at hx
  rcases List.mem_cons.1 hx with rfl | hx
  · exact hnames.1
  · split at hx
    · rw [List.mem_singleton.1 hx]
      exact hnames.2
    · simp at hx

section

variable (client : Client) (net : Network) (left index : Nat) {hop : Hop}

theorem mem_send_of_mem {x : String × Bytes} (hx : x ∈ hop.headers) (hname : x.1 = "authorization") :
    ("Authorization", x.2) ∈ (send client hop).headers := by
  have htitle : titleCase "authorization" = "Authorization" := by decide +kernel
  refine List.mem_map.2 ⟨x, ?_, ?_⟩
  · refine List.mem_mergeSort.2 ?_
    unfold wireHeaders
    simp only [List.cons_append, List.append_assoc, List.mem_cons, List.mem_append]
    exact .inr (.inl hx)
  · rw [hname, htitle]

theorem send_carries_iff (h : Named hop.headers) :
    (send client hop).CarriesAuthorization ↔ HasCredentials hop.headers := by
  constructor
  · rintro ⟨x, hx, hname⟩
    obtain ⟨y, hy, hauthorization, -⟩ := mem_send_authorization h hx hname
    exact ⟨y, hy, hauthorization⟩
  · rintro ⟨x, hx, hname⟩
    have hlower : Ascii.lower "Authorization" = "authorization" := by decide +kernel
    exact ⟨_, mem_send_of_mem client hx hname, hlower⟩

theorem follow_guarded {values : Bytes → Prop} (h : Guarded values hop) :
    ∀ s ∈ (follow client net left index hop).1, ∀ x ∈ s.headers, Ascii.lower x.1 = "authorization" →
      values x.2 := by
  refine forall_mem_follow client left index net (I := Guarded values)
    (P := fun s => ∀ x ∈ s.headers, Ascii.lower x.1 = "authorization" → values x.2) ?_ ?_ ?_ hop h
  · intro hop hguarded x hx hname
    obtain ⟨y, hy, hauthorization, hvalue⟩ := mem_send_authorization hguarded.names.headers hx hname
    rw [← hvalue]
    exact hguarded.headers y hy hauthorization
  · intro hop _ x hx hname
    exact absurd hname (sendConnect_carries_nothing client hop x hx)
  · exact fun hop status url hguarded => hguarded.nextHop

/-- A request that follows a redirect has credentials exactly if the headers that it starts from have
them, and its server is the one before. -/
theorem follow_carries {p : Prop} (hnames : hop.HasNames)
    (hfirst : net.headerCopy = .first → (HasCredentials hop.original ↔ p)) :
    (follow client net left index hop).1.IsChain fun a b =>
      b.CarriesAuthorization ↔ net.headerCopy.select p a.CarriesAuthorization ∧ b.IsFor a.url ∧
        ¬b.AsksTunnel client := by
  -- the names of a hop stay the same few, and the headers of the first request keep its credentials
  refine isChain_follow client left index net
    (I := fun hop => hop.HasNames ∧ (net.headerCopy = .first → (HasCredentials hop.original ↔ p)))
    ?_ ?_ ?_ hop ⟨hnames, hfirst⟩
  · rintro hop status url ⟨hnames, hfirst⟩ hdirect
    rw [send_carries_iff client hnames.nextHop.headers, hasCredentials_nextHop,
      ← sameServer_iff_isFor]
    have hsource : HasCredentials (hop.source net.headerCopy) ↔
        net.headerCopy.select p (send client hop).CarriesAuthorization := by
      rw [send_carries_iff client hnames.headers]
      cases hcopy : net.headerCopy with
      | first => exact hfirst hcopy
      | previous => exact Iff.rfl
    rw [hsource]
    exact and_congr_right fun _ => (and_iff_left hdirect).symm
  · rintro hop status url - htunnel
    refine iff_of_false ?_ fun h => h.2.2 htunnel
    rintro ⟨x, hx, hname⟩
    exact sendConnect_carries_nothing client _ x hx hname
  · rintro hop status url ⟨hnames, hfirst⟩
    refine ⟨hnames.nextHop, fun hcopy => ?_⟩
    rw [← hfirst hcopy, hcopy]
    exact exists_congr fun x => and_congr_left fun hname => mem_original_nextHop hname

end

theorem mem_firstHop_authorization (out : Outbound) (value : Bytes) :
    ("authorization", value) ∈ (firstHop out).headers ↔
      ("authorization", value) ∈ out.headers ∨
        (∀ v, ("authorization", v) ∉ out.headers) ∧ basicAuthorization? out.url = some value := by
  have hcontains : out.headers.contains "authorization" = true ↔ ∃ v, ("authorization", v) ∈ out.headers := by
    simp [Http.Headers.contains]
  show _ ∈ firstHeaders out ↔ _
  unfold firstHeaders
  cases basicAuthorization? out.url with
  | none => simp
  | some given =>
    dsimp only
    -- the credentials of the URL are added only where none were selected
    by_cases h : ∃ v, ("authorization", v) ∈ out.headers
    · rw [if_pos (hcontains.2 h)]
      obtain ⟨v, hv⟩ := h
      exact ⟨.inl, fun hor => hor.elim id fun hnone => absurd hv (hnone.1 v)⟩
    · rw [if_neg (hcontains.not.2 h)]
      have hnone : ∀ v, ("authorization", v) ∉ out.headers := fun v hv => h ⟨v, hv⟩
      simp [hnone, eq_comm]

end Client

/-! ### The credentials of a request -/

theorem Headers.mem_found_iff {r : Inbound} {names : List String} {name : String} {value : Bytes} :
    (name, value) ∈ found r names ↔ name ∈ names ∧ (r.header? name).map Utf8.encode = some value := by
  constructor
  · intro h
    obtain ⟨hname, text, htext, hvalue⟩ := mem_found h
    refine ⟨hname, Option.map_eq_some_iff.2 ⟨text, htext, hvalue.symm⟩⟩
  · rintro ⟨hname, hvalue⟩
    obtain ⟨text, htext, rfl⟩ := Option.map_eq_some_iff.1 hvalue
    exact List.mem_filterMap.2 ⟨name, hname, by rw [htext]; rfl⟩

namespace Forwarder

/-- The credentials that a request is sent with: its own, or those of the origin if it has none. -/
def credentials? (f : Forwarder) (r : Inbound) : Option Bytes :=
  ((r.header? "authorization").map Utf8.encode).orElse fun _ =>
    Client.basicAuthorization? f.target.origin

section

variable {c : Config} {f : Forwarder} {r : Inbound} {out : Outbound}

theorem firstHop_sameServer (hc : c.validate = .ok c) (hf : ofConfig c.origin = .ok f)
    (hout : f.prepare r = .ok out) :
    Client.sameServer (Client.firstHop out).url f.target.origin = true := by
  obtain ⟨a, horigin⟩ := ofConfig_isOrigin hc hf
  obtain ⟨hscheme, hauthority, -⟩ := Target.resolve_ok horigin (prepare_ok hout).1
  rw [Client.sameServer_iff]
  unfold Client.firstHop Client.withoutCredentials Url.host? Url.effectiveNumber?
  dsimp only
  rw [hauthority, horigin.authority, hscheme]
  exact ⟨rfl, rfl⟩

theorem mem_firstHop_credentials (hc : c.validate = .ok c) (hf : ofConfig c.origin = .ok f)
    (hout : f.prepare r = .ok out) (value : Bytes) :
    ("authorization", value) ∈ (Client.firstHop out).headers ↔ f.credentials? r = some value := by
  obtain ⟨a, horigin⟩ := ofConfig_isOrigin hc hf
  obtain ⟨hurl, hselect, -, -⟩ := prepare_ok hout
  have hbasic : Client.basicAuthorization? out.url = Client.basicAuthorization? f.target.origin := by
    unfold Client.basicAuthorization?
    rw [(Target.resolve_ok horigin hurl).2.1, horigin.authority]
  have hmem : ∀ v, ("authorization", v) ∈ out.headers ↔
      (r.header? "authorization").map Utf8.encode = some v := by
    intro v
    rw [(Headers.select_ok hselect).2, Headers.mem_found_iff]
    exact and_iff_right (by decide)
  rw [Client.mem_firstHop_authorization, hbasic]
  simp only [hmem]
  unfold credentials?
  cases (r.header? "authorization").map Utf8.encode with
  | some own => simp
  | none => simp

theorem firstHop_guarded (hc : c.validate = .ok c) (hf : ofConfig c.origin = .ok f)
    (hout : f.prepare r = .ok out) :
    Client.Guarded (fun value => f.credentials? r = some value) (Client.firstHop out) := by
  have hheaders : out.headers = Headers.found r Headers.forwarded :=
    (Headers.select_ok (prepare_ok hout).2.1).2
  have hvalues : ∀ x ∈ Client.firstHeaders out, x.1 = "authorization" → f.credentials? r = some x.2 := by
    rintro ⟨name, value⟩ hx rfl
    exact (mem_firstHop_credentials hc hf hout value).1 hx
  exact ⟨Client.firstHop_hasNames fun x hx => (Headers.mem_found (hheaders ▸ hx)).1, hvalues, hvalues⟩

theorem firstHop_hasCredentials (hc : c.validate = .ok c) (hf : ofConfig c.origin = .ok f)
    (hout : f.prepare r = .ok out) :
    Client.HasCredentials (Client.firstHop out).headers ↔ (f.credentials? r).isSome = true := by
  rw [Option.isSome_iff_exists]
  constructor
  · rintro ⟨⟨name, value⟩, hx, rfl⟩
    exact ⟨value, (mem_firstHop_credentials hc hf hout value).1 hx⟩
  · rintro ⟨value, hvalue⟩
    exact ⟨_, (mem_firstHop_credentials hc hf hout value).2 hvalue, rfl⟩

theorem head?_isFor (hc : c.validate = .ok c) (hf : ofConfig c.origin = .ok f)
    (hout : f.prepare r = .ok out) (net : Network) :
    ∀ s ∈ (f.client.exchange net out).1.head?, s.IsFor f.target.origin := by
  have hserver := (Client.sameServer_iff _ _).1 (firstHop_sameServer hc hf hout)
  intro s hs
  rcases Client.head?_follow f.client _ _ hs with ⟨-, rfl⟩ | ⟨-, rfl⟩ <;> exact hserver

/-- Where credentials go. The first request has them, and is for the origin. A request that follows a
redirect has them exactly if the headers it starts from have them, and it is for the server just before.
If these are the headers of the request before, credentials stay with the origin, and once a request goes
without, so do all that follow. If they are those of the first request, credentials stay with the origin
exactly if no two requests in a row are for one server that is not the origin; a request for a tunnel has
no credentials. -/
theorem credentials_stay_iff (hc : c.validate = .ok c) (hf : ofConfig c.origin = .ok f) (net : Network)
    (r : Inbound) :
    (∀ s ∈ (f.forward net r).2.sent.head?, s.IsFor f.target.origin ∧
      (¬s.AsksTunnel f.client → ∀ value, f.credentials? r = some value →
        ("Authorization", value) ∈ s.headers)) ∧
    (∀ s ∈ (f.forward net r).2.sent, ∀ x ∈ s.headers, Ascii.lower x.1 = "authorization" →
      f.credentials? r = some x.2) ∧
    ((f.forward net r).2.sent.IsChain fun a b => b.CarriesAuthorization ↔
      net.headerCopy.select ((f.credentials? r).isSome = true) a.CarriesAuthorization ∧ b.IsFor a.url ∧
        ¬b.AsksTunnel f.client) ∧
    (net.headerCopy = .previous →
      (∀ s ∈ (f.forward net r).2.sent, s.CarriesAuthorization → s.IsFor f.target.origin) ∧
      (f.forward net r).2.sent.Pairwise fun a b => b.CarriesAuthorization → a.CarriesAuthorization) ∧
    (net.headerCopy = .first → (f.credentials? r).isSome = true →
      ((∀ s ∈ (f.forward net r).2.sent, s.CarriesAuthorization → s.IsFor f.target.origin) ↔
        (f.forward net r).2.sent.IsChain fun a b =>
          b.IsFor a.url → b.IsFor f.target.origin ∨ b.AsksTunnel f.client)) := by
  rw [forward_sent]
  cases hout : f.prepare r with
  | error e => simp
  | ok out =>
    have hguarded := firstHop_guarded hc hf hout
    have hhead := head?_isFor hc hf hout net
    have hlaw := Client.follow_carries f.client net Client.maxRedirects 0 hguarded.names
      fun _ => firstHop_hasCredentials hc hf hout
    refine ⟨fun s hs => ⟨hhead s hs, fun hdirect value hvalue => ?_⟩,
      Client.follow_guarded f.client net Client.maxRedirects 0 hguarded, hlaw, fun hcopy => ?_,
      fun hcopy hsome => ?_⟩
    · rcases Client.head?_follow f.client _ _ hs with ⟨-, rfl⟩ | ⟨htunnel, rfl⟩
      · exact Client.mem_send_of_mem f.client ((mem_firstHop_credentials hc hf hout value).2 hvalue) rfl
      · exact absurd htunnel hdirect
    · rw [hcopy] at hlaw
      have hpast : (f.client.exchange net out).1.IsChain fun a b =>
          b.CarriesAuthorization → a.CarriesAuthorization := hlaw.imp fun a b h hcarries => (h.1 hcarries).1
      have : Trans (fun a b : Sent => b.CarriesAuthorization → a.CarriesAuthorization)
          (fun a b : Sent => b.CarriesAuthorization → a.CarriesAuthorization)
          (fun a b : Sent => b.CarriesAuthorization → a.CarriesAuthorization) :=
        ⟨fun hab hbc hcarries => hab (hbc hcarries)⟩
      refine ⟨?_, List.isChain_iff_pairwise.1 hpast⟩
      -- from neighbour to neighbour: credentials go on to the same server only
      refine List.IsChain.induction _ _ hlaw ?_ ?_
      · intro a b hab ha hcarries
        obtain ⟨hbefore, hsame, -⟩ := hab.1 hcarries
        exact Sent.IsFor.trans hsame (ha hbefore)
      · intro hne _
        exact hhead _ (List.head?_eq_some_head hne)
    · rw [hcopy] at hlaw
      refine forall_mem_iff_isChain hlaw ?_ fun s hs _ => hhead s hs
      intro a b hab
      rw [hab]
      constructor
      · intro h hsame
        by_cases htunnel : b.AsksTunnel f.client
        · exact .inr htunnel
        · exact .inl (h ⟨hsome, hsame, htunnel⟩)
      · rintro h ⟨-, hsame, htunnel⟩
        exact (h hsame).resolve_right htunnel

end

/-- From the origin to itself, then to another server, on within it, and back. The fourth request has the
token again if it starts from the headers of the first. -/
theorem credentials_stay_iff_within :
    let c : Config := { origin := { origin := "http://origin.example:8080" } }
    let moved := fun url : String => Reply.answer 307 [("location", Utf8.encode url)] (.ok [])
    let net := fun copy : HeaderCopy => { Network.scripted [moved "/a", moved "http://other.example:8080/b",
      moved "/c", moved "http://origin.example:8080/d", .answer 200 [] (.ok [])] with headerCopy := copy }
    let r : Inbound :=
      { method := .post, path := "/api/x", headers := .ofList [("Authorization", "Bearer t")] }
    c.validate = .ok c ∧ ∃ f, ofConfig c.origin = .ok f ∧
      (f.forward (net .first) r).2.sent.map (·.url.text) =
        ["http://origin.example:8080/x", "http://origin.example:8080/a", "http://other.example:8080/b",
          "http://other.example:8080/c", "http://origin.example:8080/d"] ∧
      (∃ s ∈ (f.forward (net .first) r).2.sent,
        s.url.text = "http://other.example:8080/c" ∧ s.CarriesAuthorization) ∧
      ∀ s ∈ (f.forward (net .previous) r).2.sent, s.CarriesAuthorization → s.IsFor f.target.origin := by
  intro c moved net r
  have hc : c.validate = .ok c := by decide +kernel
  let f : Forwarder := ⟨⟨⟨"http", some { host := .domain "origin.example", portNumber := some 8080 },
    .segments [""], none, none⟩, c.origin.mountPrefixes⟩, {}, false⟩
  have hf : ofConfig c.origin = .ok f := by decide +kernel
  have hurls : (f.forward (net .first) r).2.sent.map (·.url.text) =
      ["http://origin.example:8080/x", "http://origin.example:8080/a", "http://other.example:8080/b",
        "http://other.example:8080/c", "http://origin.example:8080/d"] := by decide +kernel
  obtain ⟨-, -, hlaw, -, -⟩ := credentials_stay_iff hc hf (net .first) r
  refine ⟨hc, f, hf, hurls, ?_, ((credentials_stay_iff hc hf (net .previous) r).2.2.2.1 rfl).1⟩
  -- the third and the fourth request are for one server
  have hservers : ((f.forward (net .first) r).2.sent.drop 2).map
        (fun s => (s.url.text, s.url.host?, s.url.effectiveNumber?)) =
      [("http://other.example:8080/b", some (.domain "other.example"), some 8080),
        ("http://other.example:8080/c", some (.domain "other.example"), some 8080),
        ("http://origin.example:8080/d", some (.domain "origin.example"), some 8080)] := by decide +kernel
  obtain ⟨third, rest, hdrop, hthird, hrest⟩ := List.map_eq_cons_iff.1 hservers
  obtain ⟨fourth, more, rfl, hfourth, -⟩ := List.map_eq_cons_iff.1 hrest
  simp only [Prod.mk.injEq] at hthird hfourth
  have hchain := hlaw.drop 2
  rw [hdrop] at hchain
  have hmem : fourth ∈ (f.forward (net .first) r).2.sent :=
    List.mem_of_mem_drop (hdrop ▸ List.mem_cons_of_mem _ List.mem_cons_self)
  refine ⟨fourth, hmem, hfourth.1, (List.isChain_cons_cons.1 hchain).1.2 ⟨?_, ?_, ?_⟩⟩
  · show (f.credentials? r).isSome = true
    decide +kernel
  · exact ⟨hfourth.2.1.trans hthird.2.1.symm, hfourth.2.2.trans hthird.2.2.symm⟩
  · simp [Sent.AsksTunnel, f]

end Forwarder

end Relay
