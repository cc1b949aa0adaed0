import AccountKeeper.Proofs.Action

/-!
# Forms of addresses

The grammar of server addresses: what is accepted is a scheme, a host, a port
and a path, one after the other, of which all but the host may be missing.
`read_follows_grammar` says that exactly the texts with such a form are read,
that they have one form only, and what each part of it stands for.
-/

set_option autoImplicit false

namespace AccountKeeper

/-- The parts of an address as they are written. -/
structure AddressForm where
  /-- The scheme up to its two slashes, or nothing. -/
  lead : List Char
  host : List Char
  /-- A colon with a number behind it, or nothing. -/
  port : List Char
  /-- All from the first slash on. -/
  path : List Char
  deriving DecidableEq, Repr

namespace AddressForm

def authority (form : AddressForm) : List Char :=
  form.host ++ form.port

def text (form : AddressForm) : List Char :=
  form.lead ++ (form.authority ++ form.path)

/-- Decimal digits, after an optional plus sign, write a number. -/
inductive Numeral : List Char → Nat → Prop where
  | unsigned (digits : List Char) (nonempty : digits ≠ [])
    (decimal : ∀ d ∈ digits, d.isDigit = true) :
    Numeral digits (Nat.ofDigitChars 10 digits 0)
  | signed (digits : List Char) (nonempty : digits ≠ [])
    (decimal : ∀ d ∈ digits, d.isDigit = true) :
    Numeral ('+' :: digits) (Nat.ofDigitChars 10 digits 0)

/-- The scheme is written in any case. -/
def Names (lead : List Char) (scheme : Scheme) : Prop :=
  lead.map Char.toLower = scheme.lead.toList

/-- What the host and the port of a form have to be like. -/
structure Addressed (form : AddressForm) : Prop where
  host_some : form.host ≠ []
  host : ∀ c ∈ form.host, c ≠ '/' ∧ Text.isBlank c = false
  port : form.port = [] ∧ ':' ∉ form.host ∨
    ∃ numeral value, form.port = ':' :: numeral ∧ Numeral numeral value ∧ value ≤ 65535

/-- What a form has to be like. -/
structure WellFormed (form : AddressForm) : Prop extends Addressed form where
  lead : form.lead = [] ∧ ¬"://".toList <:+: form.text ∨ ∃ scheme, Names form.lead scheme
  path : form.path = [] ∨ ∃ rest, form.path = '/' :: rest

/-- What a form stands for, part by part. -/
structure Means (form : AddressForm) (server : ServerAddress) : Prop where
  scheme : form.lead = [] ∧ server.scheme = none ∨
    ∃ scheme, Names form.lead scheme ∧ server.scheme = some scheme
  host : server.host = String.ofList (Text.lowercase form.host)
  port : form.port = [] ∧ server.port = none ∨
    ∃ numeral port, form.port = ':' :: numeral ∧ Numeral numeral port.toNat ∧
      server.port = some port
  /-- The suffix is the path without the slashes at its end, unless nothing is left of it. -/
  suffix : ∃ kept slashes, form.path = kept ++ List.replicate slashes '/' ∧
    kept.getLast? ≠ some '/' ∧
    server.suffix = if kept = [] then none else some (String.ofList kept)

end AddressForm

namespace ServerAddress

/-- An address is read by its form. -/
structure ReadByForm (input : String) (core : List Char) : Prop where
  accepted : (∃ server, read input = .ok server) ↔
    ∃ form : AddressForm, form.text = core ∧ form.WellFormed
  unique : ∀ form form' : AddressForm, form.text = core → form'.text = core →
    form.WellFormed → form'.WellFormed → form = form'
  means : ∀ form : AddressForm, ∀ server, form.text = core → form.WellFormed →
    read input = .ok server → form.Means server
  refused : ∀ failure, read input = .error failure →
    ∃ fault, failure = .input (.server input fault)

end ServerAddress

/-! ## Schemes -/

namespace AddressForm

theorem lead_lower (scheme : Scheme) :
    scheme.lead.toList.map Char.toLower = scheme.lead.toList := by
  cases scheme <;> decide

theorem mark_of_names {lead : List Char} {scheme : Scheme} (named : Names lead scheme) :
    "://".toList <:+: lead := by
  have parts : ∃ name : List Char, scheme.lead.toList = name ++ "://".toList := by
    cases scheme with
    | http => exact ⟨"http".toList, by decide⟩
    | https => exact ⟨"https".toList, by decide⟩
  obtain ⟨name, whole⟩ := parts
  rw [Names, whole] at named
  obtain ⟨first, last, rfl, _, lower⟩ := List.map_eq_append_iff.mp named
  have outside : ∀ d ∈ "://".toList, d.toNat < 'a'.toNat ∨ 'z'.toNat < d.toNat := by simp
  rw [Text.eq_of_map_toLower last _ lower outside]
  exact (List.suffix_append first _).isInfix

theorem names_unique {lead lead' rest rest' : List Char} {scheme scheme' : Scheme}
    (named : Names lead scheme) (named' : Names lead' scheme')
    (same : lead ++ rest = lead' ++ rest') : scheme = scheme' := by
  have lower : scheme.lead.toList ++ rest.map Char.toLower =
      scheme'.lead.toList ++ rest'.map Char.toLower := by
    rw [← named, ← named', ← List.map_append, ← List.map_append, same]
  -- Two starts of one text lie inside each other, and neither scheme starts with the other.
  have nested := List.prefix_or_prefix_of_prefix
    (List.prefix_append scheme.lead.toList (rest.map Char.toLower))
    (lower ▸ List.prefix_append scheme'.lead.toList (rest'.map Char.toLower))
  cases scheme <;> cases scheme'
  · rfl
  · exact absurd nested (by decide)
  · exact absurd nested (by decide)
  · rfl

theorem dropLead_eq_some (scheme : Scheme) (text rest : List Char) :
    Text.dropHeadIgnoringCase scheme.lead.toList text = some rest ↔
      ∃ lead, text = lead ++ rest ∧ Names lead scheme := by
  rw [Text.dropHeadIgnoringCase_eq_some, lead_lower]
  rfl

end AddressForm

namespace ServerAddress

open AddressForm

/-- What is read as a scheme is cut off, and a text without one is left whole. -/
theorem readScheme_sound (text rest : List Char) (scheme : Option Scheme)
    (read : readScheme text = .ok (scheme, rest)) : ∃ lead, text = lead ++ rest ∧
      (lead = [] ∧ scheme = none ∧ ¬"://".toList <:+: text ∨
        ∃ named, Names lead named ∧ scheme = some named) := by
  unfold readScheme at read
  split at read
  · rename_i dropped found
    cases read
    obtain ⟨lead, whole, named⟩ := (dropLead_eq_some .https text rest).mp found
    exact ⟨lead, whole, .inr ⟨.https, named, rfl⟩⟩
  · split at read
    · rename_i dropped found
      cases read
      obtain ⟨lead, whole, named⟩ := (dropLead_eq_some .http text rest).mp found
      exact ⟨lead, whole, .inr ⟨.http, named, rfl⟩⟩
    · split at read
      · cases read
      · rename_i unmarked
        cases read
        refine ⟨[], rfl, .inl ⟨rfl, rfl, ?_⟩⟩
        exact fun marked => unmarked ((Text.hasInfix_iff _ _).mpr marked)

theorem dropLead_eq_none (scheme : Scheme) (text : List Char)
    (unnamed : ∀ lead rest, text = lead ++ rest → ¬Names lead scheme) :
    Text.dropHeadIgnoringCase scheme.lead.toList text = none := by
  cases found : Text.dropHeadIgnoringCase scheme.lead.toList text with
  | none => rfl
  | some rest =>
    obtain ⟨lead, whole, named⟩ := (dropLead_eq_some scheme text rest).mp found
    exact absurd named (unnamed lead rest whole)

theorem readScheme_of_plain (text : List Char) (plain : ¬"://".toList <:+: text) :
    readScheme text = .ok (none, text) := by
  have unnamed : ∀ scheme lead rest, text = lead ++ rest → ¬Names lead scheme := by
    rintro scheme lead rest rfl named
    exact plain ((mark_of_names named).trans (List.prefix_append lead rest).isInfix)
  unfold readScheme
  rw [dropLead_eq_none .https text (unnamed .https), dropLead_eq_none .http text (unnamed .http)]
  exact if_neg fun marked => plain ((Text.hasInfix_iff _ _).mp marked)

theorem readScheme_of_names (lead rest : List Char) (scheme : Scheme)
    (named : Names lead scheme) : readScheme (lead ++ rest) = .ok (some scheme, rest) := by
  have found := (dropLead_eq_some scheme (lead ++ rest) rest).mpr ⟨lead, rfl, named⟩
  unfold readScheme
  cases scheme with
  | https => rw [found]
  | http =>
    rw [dropLead_eq_none .https, found]
    intro lead' rest' same named'
    cases names_unique named named' same

/-! ## Ports -/

theorem decimal?_eq_some (digits : List Char) (value : Nat) :
    decimal? digits = some value ↔
      digits ≠ [] ∧ (∀ d ∈ digits, d.isDigit = true) ∧ Nat.ofDigitChars 10 digits 0 = value := by
  have folded : digits.foldl (fun value d => value * 10 + (d.toNat - '0'.toNat)) 0 =
      Nat.ofDigitChars 10 digits 0 := by
    unfold Nat.ofDigitChars
    simp only [Nat.mul_comm]
  unfold decimal?
  rw [folded]
  simp [List.all_eq_true, and_assoc]

theorem port_of_decimal (digits : List Char) (port : UInt16) :
    (match decimal? digits with
      | none => none
      | some value => if value < 65536 then some value.toUInt16 else none) = some port ↔
      digits ≠ [] ∧ (∀ d ∈ digits, d.isDigit = true) ∧
        Nat.ofDigitChars 10 digits 0 = port.toNat := by
  rw [← decimal?_eq_some]
  have bound : port.toNat < 65536 := port.toNat_lt
  cases found : decimal? digits with
  | none => simp
  | some value =>
    dsimp only
    rw [Option.some.injEq]
    constructor
    · intro read
      split at read
      · rename_i small
        cases read
        exact (UInt16.toNat_ofNat_of_lt' small).symm
      · cases read
    · rintro rfl
      rw [if_pos bound]
      exact congrArg some UInt16.ofNat_toNat

theorem port?_eq_some (text : List Char) (port : UInt16) :
    port? text = some port ↔ Numeral text port.toNat := by
  unfold port?
  split
  · rename_i rest
    refine (port_of_decimal rest port).trans ?_
    constructor
    · rintro ⟨nonempty, decimal, value⟩
      rw [← value]
      exact .signed rest nonempty decimal
    · intro numeral
      generalize target : port.toNat = value at numeral
      cases numeral with
      | unsigned _ _ decimal => cases decimal '+' List.mem_cons_self
      | signed _ nonempty decimal => exact ⟨nonempty, decimal, rfl⟩
  · rename_i unsigned
    refine (port_of_decimal text port).trans ?_
    constructor
    · rintro ⟨nonempty, decimal, value⟩
      rw [← value]
      exact .unsigned text nonempty decimal
    · intro numeral
      generalize port.toNat = value at numeral
      cases numeral with
      | unsigned _ nonempty decimal => exact ⟨nonempty, decimal, rfl⟩
      | signed digits _ _ => exact absurd rfl (unsigned digits)

end ServerAddress

namespace AddressForm

theorem Numeral.plain {text : List Char} {value : Nat} (numeral : Numeral text value) :
    ∀ c ∈ text, c ≠ ':' ∧ c ≠ '/' ∧ Text.isBlank c = false := by
  have digit : ∀ d : Char, d.isDigit = true → d ≠ ':' ∧ d ≠ '/' ∧ Text.isBlank d = false := by
    intro d decimal
    simp only [Char.isDigit, Bool.and_eq_true, decide_eq_true_eq] at decimal
    have low : 48 ≤ d.toNat := decimal.1
    have high : d.toNat ≤ 57 := decimal.2
    refine ⟨?_, ?_, ?_⟩
    · rintro rfl
      exact absurd high (by decide)
    · rintro rfl
      exact absurd low (by decide)
    · simp only [Text.isBlank, Bool.or_eq_false_iff, Bool.and_eq_false_iff, decide_eq_false_iff_not]
      omega
  cases numeral with
  | unsigned _ _ decimal => exact fun c member => digit c (decimal c member)
  | signed digits _ decimal =>
    intro c member
    rcases List.mem_cons.mp member with rfl | among
    · exact ⟨by decide, by decide, by decide⟩
    · exact digit c (decimal c among)

end AddressForm

namespace ServerAddress

open AddressForm

/-- The port stands behind the last colon of an authority; without a colon there is none. -/
theorem readAuthority_eq_ok (authority host : List Char) (port : Option UInt16) :
    readAuthority authority = .ok (host, port) ↔ ∃ written, authority = host ++ written ∧
      (written = [] ∧ port = none ∧ ':' ∉ host ∨ ∃ numeral number,
        written = ':' :: numeral ∧ Numeral numeral number.toNat ∧ port = some number) := by
  unfold readAuthority
  cases split : Text.splitLast ':' authority with
  | none =>
    have unmarked := (Text.splitLast_eq_none ':' authority).mp split
    constructor
    · intro read
      cases read
      exact ⟨[], (List.append_nil _).symm, .inl ⟨rfl, rfl, unmarked⟩⟩
    · rintro ⟨written, whole, ⟨rfl, rfl, _⟩ | ⟨numeral, number, rfl, _, _⟩⟩
      · rw [whole, List.append_nil]
      · exact absurd (by simp [whole]) unmarked
  | some halves =>
    obtain ⟨before, after⟩ := halves
    obtain ⟨whole, _⟩ := (Text.splitLast_eq_some ':' authority before after).mp split
    constructor
    · intro read
      dsimp only at read
      cases found : port? after with
      | none =>
        rw [found] at read
        cases read
      | some number =>
        rw [found] at read
        cases read
        have numeral := (port?_eq_some after number).mp found
        exact ⟨':' :: after, whole, .inr ⟨after, number, rfl, numeral, rfl⟩⟩
    · rintro ⟨written, same, ⟨rfl, rfl, unmarked⟩ | ⟨numeral, number, rfl, value, rfl⟩⟩
      · rw [List.append_nil] at same
        exact absurd (by simp [← same, whole]) unmarked
      · have again := (Text.splitLast_eq_some ':' authority host numeral).mpr
          ⟨same, fun member => (value.plain ':' member).1 rfl⟩
        rw [split] at again
        cases again
        dsimp only
        rw [(port?_eq_some after number).mpr value]

/-! ## Whole addresses -/

theorem parse_eq_ok (input : String) (server : ServerAddress) :
    parse input = .ok server ↔ ∃ rest host,
      readScheme (Text.trimBlanks input.toList) = .ok (server.scheme, rest) ∧
      readAuthority (rest.takeWhile (· ≠ '/')) = .ok (host, server.port) ∧
      host ≠ [] ∧ (∀ c ∈ host, Text.isBlank c = false) ∧
      server.host = String.ofList (Text.lowercase host) ∧
      server.suffix = readSuffix (rest.dropWhile (· ≠ '/')) := by
  unfold parse
  constructor
  · intro read
    obtain ⟨⟨scheme, rest⟩, schemed, read⟩ := (bind_eq_ok _ _ _).mp read
    obtain ⟨⟨host, port⟩, split, read⟩ := (bind_eq_ok _ _ _).mp read
    dsimp only at read
    split at read
    · cases read
    · rename_i nonempty
      split at read
      · cases read
      · rename_i plain
        cases read
        have unblank : ∀ c ∈ host, Text.isBlank c = false := by
          simpa using plain
        exact ⟨rest, host, schemed, split, nonempty, unblank, rfl, rfl⟩
  · rintro ⟨rest, host, schemed, split, nonempty, unblank, hostLower, suffix⟩
    have plain : ¬host.any Text.isBlank = true := by
      simpa using unblank
    obtain ⟨scheme, serverHost, port, serverSuffix⟩ := server
    dsimp only at schemed split hostLower suffix
    subst hostLower suffix
    refine (bind_eq_ok _ _ _).mpr ⟨(scheme, rest), schemed, ?_⟩
    refine (bind_eq_ok _ _ _).mpr ⟨(host, port), split, ?_⟩
    dsimp only
    rw [if_neg nonempty, if_neg plain]
    rfl

theorem readSuffix_spec (path : List Char) : ∃ kept slashes,
    path = kept ++ List.replicate slashes '/' ∧ kept.getLast? ≠ some '/' ∧
      readSuffix path = if kept = [] then none else some (String.ofList kept) := by
  obtain ⟨tail, whole, slashes, last⟩ := Text.dropTailWhile_spec (· = '/') path
  refine ⟨Text.dropTailWhile (· = '/') path, tail.length, ?_, ?_, rfl⟩
  · have same : tail = List.replicate tail.length '/' := by
      refine List.eq_replicate_iff.mpr ⟨rfl, fun c member => ?_⟩
      exact of_decide_eq_true (slashes c member)
    rw [← same]
    exact whole
  · intro slash
    have other := last '/' slash
    cases other

theorem toList_readSuffix (path : List Char) :
    ((readSuffix path).getD "").toList = Text.dropTailWhile (· = '/') path := by
  unfold readSuffix
  by_cases empty : Text.dropTailWhile (· = '/') path = []
  · simp [empty]
  · simp [empty]

theorem readSuffix_of_kept (kept : List Char) (slashes : Nat) (last : kept.getLast? ≠ some '/') :
    readSuffix (kept ++ List.replicate slashes '/') =
      if kept = [] then none else some (String.ofList kept) := by
  have dropped : Text.dropTailWhile (· = '/') (kept ++ List.replicate slashes '/') = kept := by
    rw [Text.dropTailWhile_append, Text.dropTailWhile_all, List.append_nil]
    · intro c member
      exact decide_eq_true (List.eq_of_mem_replicate member)
    · intro c ends
      exact decide_eq_false fun slash => last (slash ▸ ends)
  unfold readSuffix
  rw [dropped]

end ServerAddress

namespace AddressForm

variable {form : AddressForm} {server : ServerAddress}

theorem Addressed.plain (addressed : form.Addressed) :
    ∀ c ∈ form.authority, c ≠ '/' ∧ Text.isBlank c = false := by
  intro c member
  rcases List.mem_append.mp member with host | port
  · exact addressed.host c host
  · rcases addressed.port with ⟨absent, _⟩ | ⟨numeral, value, written, number, _⟩
    · rw [absent] at port
      cases port
    · rw [written] at port
      rcases List.mem_cons.mp port with rfl | digit
      · decide
      · exact (number.plain c digit).2

theorem WellFormed.cut (formed : form.WellFormed) :
    (form.authority ++ form.path).takeWhile (· ≠ '/') = form.authority ∧
      (form.authority ++ form.path).dropWhile (· ≠ '/') = form.path := by
  have plain : ∀ c ∈ form.authority, decide (c ≠ '/') = true := fun c member =>
    decide_eq_true (formed.plain c member).1
  rw [List.takeWhile_append_of_pos plain, List.dropWhile_append_of_pos plain]
  rcases formed.path with absent | ⟨rest, slash⟩
  · simp [absent]
  · simp [slash]

theorem Means.readScheme (means : form.Means server) (formed : form.WellFormed) :
    ServerAddress.readScheme form.text = .ok (server.scheme, form.authority ++ form.path) := by
  rcases means.scheme with ⟨empty, absent⟩ | ⟨scheme, named, present⟩
  · rw [absent]
    have whole : form.text = form.authority ++ form.path := by
      simp [text, empty]
    rcases formed.lead with ⟨_, plain⟩ | ⟨scheme, named⟩
    · rw [ServerAddress.readScheme_of_plain form.text plain, whole]
    · rw [empty] at named
      cases scheme <;> cases named
  · rw [present]
    exact ServerAddress.readScheme_of_names form.lead _ scheme named

theorem Means.readAuthority (means : form.Means server) (formed : form.WellFormed) :
    ServerAddress.readAuthority form.authority = .ok (form.host, server.port) := by
  apply (ServerAddress.readAuthority_eq_ok form.authority form.host server.port).mpr
  refine ⟨form.port, rfl, ?_⟩
  rcases means.port with ⟨empty, absent⟩ | ⟨numeral, port, written, number, present⟩
  · rcases formed.port with ⟨_, plain⟩ | ⟨numeral, value, written, _⟩
    · exact .inl ⟨empty, absent, plain⟩
    · rw [empty] at written
      cases written
  · exact .inr ⟨numeral, port, written, number, present⟩

theorem WellFormed.exists_means (formed : form.WellFormed) :
    ∃ server : ServerAddress, form.Means server := by
  have schemed : ∃ scheme : Option Scheme, form.lead = [] ∧ scheme = none ∨
      ∃ named, Names form.lead named ∧ scheme = some named := by
    rcases formed.lead with ⟨empty, _⟩ | ⟨named, names⟩
    · exact ⟨none, .inl ⟨empty, rfl⟩⟩
    · exact ⟨some named, .inr ⟨named, names, rfl⟩⟩
  have ported : ∃ port : Option UInt16, form.port = [] ∧ port = none ∨
      ∃ numeral number, form.port = ':' :: numeral ∧ Numeral numeral number.toNat ∧
        port = some number := by
    rcases formed.port with ⟨empty, _⟩ | ⟨numeral, value, written, number, small⟩
    · exact ⟨none, .inl ⟨empty, rfl⟩⟩
    · have bound : value < 65536 := by omega
      refine ⟨some (UInt16.ofNat value), .inr ⟨numeral, _, written, ?_, rfl⟩⟩
      rw [UInt16.toNat_ofNat_of_lt' bound]
      exact number
  obtain ⟨scheme, schemed⟩ := schemed
  obtain ⟨port, ported⟩ := ported
  exact ⟨⟨scheme, _, port, _⟩, schemed, rfl, ported, ServerAddress.readSuffix_spec form.path⟩

end AddressForm

namespace ServerAddress

open AddressForm

theorem read_eq_ok (input : String) (server : ServerAddress) :
    read input = .ok server ↔ parse input = .ok server := by
  unfold read
  cases parse input <;> simp

theorem read_eq_error (input : String) (failure : Failure) (refused : read input = .error failure) :
    ∃ fault, failure = .input (.server input fault) := by
  unfold read at refused
  cases parsed : parse input with
  | ok server =>
    rw [parsed] at refused
    cases refused
  | error fault =>
    rw [parsed] at refused
    cases refused
    exact ⟨fault, rfl⟩

theorem parse_of_form (input : String) (form : AddressForm) (server : ServerAddress)
    (core : form.text = Text.trimBlanks input.toList) (formed : form.WellFormed)
    (means : form.Means server) : parse input = .ok server := by
  apply (parse_eq_ok input server).mpr
  refine ⟨form.authority ++ form.path, form.host, ?_, ?_, formed.host_some, ?_, means.host, ?_⟩
  · rw [← core]
    exact means.readScheme formed
  · rw [formed.cut.1]
    exact means.readAuthority formed
  · exact fun c member => (formed.host c member).2
  · rw [formed.cut.2]
    obtain ⟨kept, slashes, whole, last, suffix⟩ := means.suffix
    rw [suffix, whole, readSuffix_of_kept kept slashes last]

theorem form_of_parse (input : String) (server : ServerAddress)
    (read : parse input = .ok server) : ∃ form : AddressForm,
      form.text = Text.trimBlanks input.toList ∧ form.WellFormed ∧ form.Means server := by
  obtain ⟨rest, host, schemed, split, nonempty, unblank, lower, suffix⟩ :=
    (parse_eq_ok input server).mp read
  obtain ⟨lead, whole, leads⟩ := readScheme_sound _ rest server.scheme schemed
  obtain ⟨port, authority, ports⟩ := (readAuthority_eq_ok _ host server.port).mp split
  have text : AddressForm.text ⟨lead, host, port, rest.dropWhile (· ≠ '/')⟩ =
      Text.trimBlanks input.toList := by
    rw [whole, AddressForm.text, AddressForm.authority, ← authority,
      List.takeWhile_append_dropWhile]
  refine ⟨_, text, ⟨⟨nonempty, ?_, ?_⟩, ?_, ?_⟩, ⟨?_, lower, ?_, ?_⟩⟩
  · intro c member
    have taken : c ∈ rest.takeWhile (· ≠ '/') := authority ▸ List.mem_append_left port member
    exact ⟨of_decide_eq_true (List.all_eq_true.mp List.all_takeWhile c taken), unblank c member⟩
  · rcases ports with ⟨empty, _, plain⟩ | ⟨numeral, number, written, value, _⟩
    · exact .inl ⟨empty, plain⟩
    · have bound : number.toNat < 65536 := number.toNat_lt
      have small : number.toNat ≤ 65535 := by omega
      exact .inr ⟨numeral, number.toNat, written, value, small⟩
  · rw [text]
    rcases leads with ⟨empty, _, plain⟩ | ⟨scheme, named, _⟩
    · exact .inl ⟨empty, plain⟩
    · exact .inr ⟨scheme, named⟩
  · have first := List.head?_dropWhile_not (fun c => decide (c ≠ '/')) rest
    cases dropped : rest.dropWhile (· ≠ '/') with
    | nil => exact .inl rfl
    | cons c others =>
      rw [dropped] at first
      have slash : c = '/' := by simpa using first
      exact .inr ⟨others, by rw [slash]⟩
  · rcases leads with ⟨empty, absent, _⟩ | ⟨scheme, named, present⟩
    · exact .inl ⟨empty, absent⟩
    · exact .inr ⟨scheme, named, present⟩
  · rcases ports with ⟨empty, absent, _⟩ | ⟨numeral, number, written, value, present⟩
    · exact .inl ⟨empty, absent⟩
    · exact .inr ⟨numeral, number, written, value, present⟩
  · rw [suffix]
    exact readSuffix_spec _

end ServerAddress

namespace AddressForm

/-- Reading decides where the parts of a text end, so it has one form. -/
theorem eq_of_text_eq {form form' : AddressForm} (same : form.text = form'.text)
    (formed : form.WellFormed) (formed' : form'.WellFormed) : form = form' := by
  obtain ⟨server, means⟩ := formed.exists_means
  obtain ⟨server', means'⟩ := formed'.exists_means
  have schemed := means.readScheme formed
  rw [same, means'.readScheme formed'] at schemed
  injection schemed with halves
  injection halves with _ rests
  have authorities : form.authority = form'.authority := by
    rw [← formed.cut.1, ← formed'.cut.1, rests]
  have paths : form.path = form'.path := by
    rw [← formed.cut.2, ← formed'.cut.2, rests]
  have split := means.readAuthority formed
  rw [authorities, means'.readAuthority formed'] at split
  injection split with parts
  injection parts with hosts _
  have leads : form.lead = form'.lead := by
    unfold text at same
    rw [rests] at same
    exact List.append_cancel_right same
  have ports : form.port = form'.port := by
    unfold authority at authorities
    rw [hosts] at authorities
    exact List.append_cancel_left authorities
  obtain ⟨lead, host, port, path⟩ := form
  obtain ⟨lead', host', port', path'⟩ := form'
  dsimp only at leads hosts ports paths
  rw [leads, hosts, ports, paths]

end AddressForm

/-- Exactly the texts with a form are read, and their form says as what. -/
theorem read_follows_grammar (input : String) :
    ∃ core, Text.IsCore input.toList core ∧ ServerAddress.ReadByForm input core := by
  refine ⟨Text.trimBlanks input.toList, Text.isCore_trimBlanks _, ?_, ?_, ?_, ?_⟩
  · constructor
    · rintro ⟨server, read⟩
      obtain ⟨form, text, formed, _⟩ :=
        ServerAddress.form_of_parse input server ((ServerAddress.read_eq_ok input server).mp read)
      exact ⟨form, text, formed⟩
    · rintro ⟨form, text, formed⟩
      obtain ⟨server, means⟩ := formed.exists_means
      have parsed := ServerAddress.parse_of_form input form server text formed means
      exact ⟨server, (ServerAddress.read_eq_ok input server).mpr parsed⟩
  · intro form form' text text' formed formed'
    exact AddressForm.eq_of_text_eq (text.trans text'.symm) formed formed'
  · intro form server text formed read
    obtain ⟨form', text', formed', means⟩ :=
      ServerAddress.form_of_parse input server ((ServerAddress.read_eq_ok input server).mp read)
    rw [AddressForm.eq_of_text_eq (text.trans text'.symm) formed formed']
    exact means
  · exact ServerAddress.read_eq_error input

end AccountKeeper
