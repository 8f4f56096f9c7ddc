import Egress.Proofs.Destination.Address
import Egress.Proofs.Host.Form
import Egress.Proofs.Session.Placement
import Egress.Proofs.Url.HostPort

/-!
# Addresses of named instances

The name of an instance is put between `http://dynamic-` and `:80`, and what comes out is read as a
URL. Most names lead to a host of that name, or to no address at all: a host of an address holds
nothing but letters, digits and marks, so that colons, brackets, percent signs and characters
outside ASCII are refused. What is left are the delimiters of an authority. They are characters of
URIs, and a name that holds one of them leads elsewhere.

## Key results

- `LeadsToInstance`: what the address of a named instance should be
- `uri_setInstance`: the address that is read
- `leadsToInstance_iff`: the names that lead to their instance
-/

namespace Egress

open Egress.Text Egress.Host Egress.Url

/-- A URL of the instance of a name, on the usual port, and of nothing else. -/
structure LeadsToInstance (name : String) (u : Url) : Prop extends u.AtRoot where
  scheme : u.scheme = "http"
  host : u.hostName = .ok ("dynamic-" ++ String.ofList (lower name.toList))
  port : u.effectivePort = some 80
  userinfo : u.userinfo = ""

variable {name : String} {u : Url}

/-- The host in the address of an instance, as it is written. -/
private def writtenHost (name : String) : List Char := "dynamic-".toList ++ name.toList

/-- The host of an instance is written with a prefix before the name. -/
private theorem writtenHost_eq (name : String) :
    writtenHost name = "dynamic-".toList ++ name.toList := rfl

/-- What stands before the name keeps its form in a host. -/
private theorem mem_front :
    ∀ c ∈ "dynamic-".toList, c.toNat < 0x80 ∧ c.toLower = c ∧ c ∉ hostDelimiters := by
  have hall : ("dynamic-".toList.all fun c => c.toNat < 0x80 && c.toLower == c &&
      !hostDelimiters.contains c) = true := by decide +kernel
  simpa [and_assoc] using hall

/-- The prefix has a first letter. -/
private theorem front_eq : "dynamic-".toList = 'd' :: "ynamic-".toList := by decide +kernel

/-- The address of an instance is put together from its host and the usual port. -/
private theorem instanceAddress_eq (name : String) :
    instanceAddress name = String.ofList (hostPortText (writtenHost name) 80) := by
  have haddress : instanceAddress name = "http://dynamic-" ++ name ++ ":80" := rfl
  have hport : portSuffix (some 80) = ":80".toList := by decide +kernel
  rw [← String.toList_inj, haddress, String.toList_append, String.toList_append,
    String.toList_ofList, hostPortText, schemed, writtenHost_eq, hport]
  simp

/-- The address of a destination that was built for an instance is read from its name. -/
theorem uri_setInstance {b : Builder} {look : Value → Value}
    (hlook : ∀ t, look (.text t) = .text t) {ε : Type}
    {derive : Properties → Logged ε (Option ProxyConfiguration)} {d : Destination}
    (hbuild : ((b.setInstance (.text name)).withAddress.build look derive).result = .ok d) :
    d.uri = .ok u ↔ readUri (instanceAddress name) = .ok u := by
  obtain ⟨proxy, _, rfl⟩ := Builder.build_eq_ok.1 hbuild
  have hself : Value.sameKey (.text PropertyKey.url.name) (.text PropertyKey.url.name) = true :=
    Value.sameKey_self (Value.isName_of_isKey rfl) rfl
  have hput : Value.entry? (b.setInstance (.text name)).draft.entries
      (.text PropertyKey.url.name) = some (.text (instanceAddress name)) :=
    Value.entry?_putEntry_self b.draft.entries _ hself
  -- the address is there, so it is not set by default
  have hfound : Properties.get? ((b.setInstance (.text name)).withAddress.draft.build look)
      (.text PropertyKey.url.name) = some (.text (instanceAddress name)) := by
    rw [Builder.withAddress_eq, if_pos (by rw [hput]; rfl), Draft.get?_build, hput,
      Option.map_some, hlook]
    rfl
  have hread : Properties.readText? ((b.setInstance (.text name)).withAddress.draft.build look)
      .url = .ok (some (instanceAddress name)) := by
    rw [Properties.readText?, hfound]
    rfl
  rw [Destination.uri, Properties.uri, hread]
  dsimp only
  cases readUri (instanceAddress name) with
  | error fault =>
    constructor
    · intro h
      cases h
    · intro h
      cases h
  | ok v => rw [Except.ok.injEq, Except.ok.injEq]

/-- The host of an instance is its name in lower case. -/
private theorem host_of_form (hascii : ∀ c ∈ name.toList, c.toNat < 0x80)
    (hpercent : '%' ∉ u.host.toList) (h : IsFormOf (writtenHost name) u.host.toList) :
    u.host.toList = "dynamic-".toList ++ lower name.toList := by
  -- The host is written with ASCII characters, so it is neither an address in brackets nor
  -- international.
  have hwritten : ∀ c ∈ writtenHost name, c.toNat < 0x80 := by
    intro c hc
    rcases List.mem_append.1 hc with hc | hc
    · exact (mem_front c hc).1
    · exact hascii c hc
  cases h with
  | address brackets valid =>
    rw [writtenHost_eq, front_eq] at brackets
    exact absurd (List.cons.inj brackets).1 (by decide)
  | name ascii escaped =>
    have hlower : lower name.toList = name.toList.map Char.toLower := by
      rw [lower, if_pos (by simpa using hascii)]
    have hfront : "dynamic-".toList.map Char.toLower = "dynamic-".toList :=
      (List.map_congr_left fun c hc => (mem_front c hc).2.1).trans (List.map_id _)
    rw [escaped] at hpercent ⊢
    rw [encode_of_no_percent hpercent, hlower, writtenHost_eq, List.map_append, hfront]
  | international outside encoded =>
    obtain ⟨c, hc, hlarge⟩ := outside
    have := hwritten c hc
    omega

/-- A name without delimiters leads to its instance. -/
private theorem leadsToInstance_of_no_delimiter
    (h : readUri (instanceAddress name) = .ok u) (hno : ∀ c ∈ name.toList, c ∉ hostDelimiters) :
    LeadsToInstance name u := by
  obtain ⟨_, htext, hparse, hpercent⟩ := readUri_eq_ok h
  rw [instanceAddress_eq] at hparse htext
  have hhost : ∀ c ∈ writtenHost name, c ∉ hostDelimiters := by
    intro c hc
    rcases List.mem_append.1 hc with hc | hc
    · exact (mem_front c hc).2.2
    · exact hno c hc
  obtain ⟨hends, hat⟩ := no_delimiter_iff.1 hhost
  have hparts := fromParts_of_hostPort hparse hends hat
  -- characters of URIs are ASCII
  have hascii : ∀ c ∈ name.toList, c.toNat < 0x80 := by
    intro c hc
    have hmem : c ∈ hostPortText (writtenHost name) 80 := by
      simp [hostPortText, schemed, writtenHost_eq, hc]
    rcases htext.characters c (by rwa [String.toList_ofList]) with rfl | huri
    · decide
    · exact lt_of_mem_uriCharacters huri
  have hform := host_of_form hascii hpercent (isFormOf_normalHost hparts.host)
  have hscheme : u.scheme = "http" := String.toList_inj.1 hparts.scheme
  have hport : u.effectivePort = some 80 := effectivePort_of_fromParts hparts rfl rfl
    (Nat.lt_of_lt_of_le (by decide) Number.portBound_le_digitBound)
  refine ⟨(atRoot_iff hparse).2 hends, hscheme, ?_, hport, ?_⟩
  · have hcodes : u.hostCodes = .ok (u.host.toList.map Char.toNat) := by
      have hxn : "xn--".toList = 'x' :: "n--".toList := by decide
      rw [hostCodes, if_neg]
      rw [hform, front_eq, hxn]
      simp
    have hback : (u.host.toList.map Char.toNat).map Char.ofNat = u.host.toList := by
      simp [Function.comp_def, Char.ofNat_toNat]
    rw [hostName, hcodes, Except.map, hback, hform, String.ofList_append, String.ofList_toList]
  · rw [← String.toList_inj, hparts.userinfo]
    rfl

/-- An address that is read from the name of an instance leads to that instance exactly when none
of the delimiters of an authority is in the name. -/
theorem Builder.leadsToInstance_iff (b : Builder) (name : String) (s : Session.State) {ε : Type}
    (derive : Properties → Logged ε (Option ProxyConfiguration)) (d : Destination)
    (hbuild : ((b.setInstance (.text name)).withAddress.build s.resolve derive).result = .ok d)
    (u : Url) (hu : d.uri = .ok u) :
    LeadsToInstance name u ↔ ∀ c ∈ name.toList, c ∉ hostDelimiters := by
  have hread := (uri_setInstance (fun t => Session.resolve_of_isPlain s rfl) hbuild).1 hu
  constructor
  · intro hleads
    obtain ⟨_, _, hparse, _⟩ := readUri_eq_ok hread
    rw [instanceAddress_eq] at hparse
    have hends := (atRoot_iff hparse).1 hleads.toAtRoot
    have hat : '@' ∉ name.toList := by
      intro hmem
      obtain ⟨before, after, hname, hno⟩ := exists_last_of_mem hmem
      have hwritten : writtenHost name = ("dynamic-".toList ++ before) ++ '@' :: after := by
        rw [writtenHost_eq, hname, List.append_assoc]
      rw [hwritten] at hparse hends
      -- what stands before the at sign is user information, and is not empty
      have huserinfo := (fromParts_of_userHostPort hparse hends hno).userinfo
      rw [hleads.userinfo, eq_comm] at huserinfo
      cases encode_eq_nil.1 huserinfo
    exact no_delimiter_iff.2 ⟨fun c hc => hends c (List.mem_append_right _ hc), hat⟩
  · exact leadsToInstance_of_no_delimiter hread

/-- A name with a dot and a capital letter leads to its instance. -/
theorem Builder.leadsToInstance_dotted :
    let b : Builder := {}
    let derive : Properties → Logged Unit (Option ProxyConfiguration) := fun _ => .quiet (.ok none)
    ∃ d u, ((b.setInstance (.text "Svc.a")).withAddress.build (Session.State.resolve {})
        derive).result = .ok d ∧ d.uri = .ok u ∧ LeadsToInstance "Svc.a" u := by
  intro b derive
  have hbuild : ((b.setInstance (.text "Svc.a")).withAddress.build (Session.State.resolve {})
      derive).result = .ok ⟨_, _, _, none⟩ := build_eq_ok.2 ⟨none, rfl, rfl⟩
  -- The address has no delimiters besides its own, which is checked by evaluation.
  have hurl : readUri (instanceAddress "Svc.a") =
      .ok ⟨"http", "", "dynamic-svc.a", none, "", none, none⟩ := by decide +kernel
  have hu := (uri_setInstance (fun t => Session.resolve_of_isPlain {} rfl) hbuild).2 hurl
  refine ⟨_, _, hbuild, hu, ?_⟩
  exact (leadsToInstance_iff b "Svc.a" {} derive _ hbuild _ hu).2
    (no_delimiter_of_all (by decide +kernel))

/-- A name with an at sign leads to the host behind it. -/
theorem Builder.not_leadsToInstance_at_sign :
    ∃ d u, (({} : Builder).setInstance (.text "svc@other")).make.result = .ok d ∧
      d.uri = .ok u ∧ u.host = "other" ∧ ¬LeadsToInstance "svc@other" u := by
  have hmade : (({} : Builder).setInstance (.text "svc@other")).make.result.isOk = true := by
    decide +kernel
  cases hd : (({} : Builder).setInstance (.text "svc@other")).make.result with
  | error e =>
    rw [hd] at hmade
    cases hmade
  | ok d =>
    -- What stands before the at sign becomes user information, and the rest is the host.
    have hurl : readUri (instanceAddress "svc@other") =
        .ok ⟨"http", "dynamic-svc", "other", none, "", none, none⟩ := by decide +kernel
    have hu := (uri_setInstance (fun _ => rfl) hd).2 hurl
    refine ⟨d, _, rfl, hu, rfl, ?_⟩
    intro hleads
    exact absurd hleads.userinfo (by decide)

end Egress
