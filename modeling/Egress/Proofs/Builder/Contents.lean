import Egress.Destination.Builder
import Egress.Proofs.Value.Entries

/-!
# What builders hand over

A destination that is built holds the properties of the builder, with their values frozen, and its
headers and providers. Its address is set, by default if the builder has none.
-/

namespace Egress

open Value

/-- A frozen store holds the frozen values. -/
theorem Properties.get?_ofEntries (entries : List (Value × Value)) (k : Value) :
    (Properties.ofEntries entries).get? k = (Value.entry? entries k).map Value.freeze := by
  rw [Properties.get?, Properties.ofEntries, freezeEntries_eq_map, entry?_map]

/-- A built store holds the values as they are at present, frozen. -/
theorem Draft.get?_build (d : Draft) (look : Value → Value) (k : Value) :
    (d.build look).get? k = (Value.entry? d.entries k).map fun v => (look v).freeze := by
  rw [Draft.build, Properties.get?_ofEntries, entry?_map, Option.map_map]
  rfl

/-- A built store has the names of the draft, in order. -/
theorem Draft.names_build (d : Draft) (look : Value → Value) :
    (d.build look).names = d.entries.map (·.1) := by
  rw [Draft.build, Properties.ofEntries, freezeEntries_eq_map, Properties.names, List.map_map,
    List.map_map]
  rfl

namespace Builder

variable {b : Builder} {k : Value} {look : Value → Value} {d : Destination}
  {derive : Properties → Logged ε (Option ProxyConfiguration)}

/-- A build succeeds when a proxy configuration can be derived. -/
theorem build_eq_ok : (b.build look derive).result = .ok d ↔
    ∃ proxy, (derive (b.draft.build look)).result = .ok proxy ∧
      d = ⟨b.draft.build look, b.headers, b.providers, proxy⟩ := by
  rw [build, assemble, Logged.bind]
  cases hderive : (derive (b.draft.build look)).result with
  | error e => simp
  | ok proxy => simp [eq_comm]

/-- A build fails when no proxy configuration can be derived. -/
theorem build_eq_error {e : ε} : (b.build look derive).result = .error e ↔
    (derive (b.draft.build look)).result = .error e := by
  rw [build, assemble, Logged.bind]
  cases hderive : (derive (b.draft.build look)).result with
  | error e => simp
  | ok proxy => simp

/-- The default address is put under a name that is new. -/
theorem withAddress_eq (b : Builder) : b.withAddress =
    if (Value.entry? b.draft.entries (.text PropertyKey.url.name)).isSome then b
    else { b with draft := b.draft.put (.text PropertyKey.url.name) (.text defaultAddress) } := rfl

/-- The default address is no header. -/
theorem headers_withAddress (b : Builder) : b.withAddress.headers = b.headers := by
  rw [withAddress_eq]
  split <;> rfl

/-- The default address is no provider. -/
theorem providers_withAddress (b : Builder) : b.withAddress.providers = b.providers := by
  rw [withAddress_eq]
  split <;> rfl

/-- The default address leaves the factory. -/
theorem factory_withAddress (b : Builder) : b.withAddress.factory = b.factory := by
  rw [withAddress_eq]
  split <;> rfl

/-- The address of a builder with a default address is set. -/
theorem isSome_withAddress (b : Builder) :
    (Value.entry? b.withAddress.draft.entries (.text PropertyKey.url.name)).isSome = true := by
  rw [withAddress_eq]
  -- Either the address is there, or the default address is put behind the entries.
  split
  · rename_i hsome
    exact hsome
  · rename_i hnone
    have hself : sameKey (.text PropertyKey.url.name) (.text PropertyKey.url.name) = true :=
      sameKey_self (isName_of_isKey rfl) rfl
    rw [Draft.put, putEntry, any_sameKey, if_neg hnone, entry?_append, entry?_cons, if_pos hself,
      Option.isSome_or]
    exact Bool.or_true _

/-- A default address is set once. -/
theorem withAddress_withAddress (b : Builder) : b.withAddress.withAddress = b.withAddress := by
  rw [withAddress_eq b.withAddress, if_pos b.isSome_withAddress]

/-- What a build finds under a name: what the builder holds, or the default address. -/
theorem entry?_withAddress (hn : AreNamed b.draft.entries) (hk : k.IsName) :
    entry? b.withAddress.draft.entries k = (Value.entry? b.draft.entries k).or
      (if sameKey (.text PropertyKey.url.name) k = true then some (.text defaultAddress)
        else none) := by
  have haddress : (Value.text PropertyKey.url.name).IsName := isName_of_isKey rfl
  rw [withAddress_eq]
  -- Either the builder has an address, and the default is not used, or the default is put in.
  split
  · rename_i hsome
    split
    · rename_i hurl
      rw [entry?_congr hn haddress hk hurl] at hsome
      obtain ⟨v, hv⟩ := Option.isSome_iff_exists.1 hsome
      rw [hv]
      rfl
    · exact Option.or_none.symm
  · rename_i hnone
    rw [Option.not_isSome_iff_eq_none] at hnone
    rw [Draft.put, entry?_putEntry hn haddress hk]
    split
    · rename_i hurl
      rw [← entry?_congr hn haddress hk hurl, hnone]
      rfl
    · exact Option.or_none.symm

end Builder

end Egress
