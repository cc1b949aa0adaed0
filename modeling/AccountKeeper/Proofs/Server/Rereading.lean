import AccountKeeper.Proofs.Server.Form
import AccountKeeper.Proofs.Text.Lowercase

/-!
# Reading an address again

The normal form of an address is itself an address, with the same scheme, host
and port.  `parse_display_eq_iff` says that the whole address is read back
exactly if its path does not end in a blank: a blank at the end of a text is
dropped before the slashes behind a path are, so it can only be left at the
end of a path that slashes followed.
-/

set_option autoImplicit false

namespace AccountKeeper

namespace ServerAddress

/-- The parts of the normal form. -/
def written (server : ServerAddress) : AddressForm where
  lead := match server.scheme with
    | none => []
    | some scheme => scheme.lead.toList
  host := server.host.toList
  port := match server.port with
    | none => []
    | some port => ':' :: (Nat.repr port.toNat).toList
  path := (server.suffix.getD "").toList

/-- The last character of the path is a blank. -/
def EndsBlank (server : ServerAddress) : Prop :=
  ∃ c ∈ server.written.path.getLast?, Text.isBlank c = true

/-- The normal form without the blanks at the end of its path. -/
def core (server : ServerAddress) : AddressForm :=
  { server.written with path := Text.dropTailWhile Text.isBlank server.written.path }

/-- The address that is left when the blanks at the end of the path are gone. -/
def reread (server : ServerAddress) : ServerAddress :=
  { server with suffix := readSuffix server.core.path }

theorem toList_display (server : ServerAddress) : server.display.toList = server.written.text := by
  unfold display authorityAndSuffix written AddressForm.text AddressForm.authority
  cases server.scheme <;> cases server.port <;> simp

end ServerAddress

namespace AddressForm

theorem Numeral.last {text : List Char} {value : Nat} (numeral : Numeral text value) :
    ∃ c ∈ text.getLast?, c ≠ ':' := by
  have nonempty : text ≠ [] := by
    cases numeral with
    | unsigned _ nonempty _ => exact nonempty
    | signed digits _ _ => exact List.cons_ne_nil '+' digits
  have plain := numeral.plain (text.getLast nonempty) (List.getLast_mem nonempty)
  exact ⟨text.getLast nonempty, List.getLast?_eq_some_getLast nonempty, plain.1⟩

theorem numeral_repr (value : Nat) : Numeral (Nat.repr value).toList value := by
  have decimal : ∀ d ∈ (Nat.repr value).toList, d.isDigit = true := by
    intro d member
    rw [Nat.toList_repr] at member
    exact Nat.isDigit_of_mem_toDigits (by decide) (by decide) member
  have nonempty : (Nat.repr value).toList ≠ [] := by
    rw [Nat.toList_repr]
    exact Nat.toDigits_ne_nil
  have numeral := Numeral.unsigned (Nat.repr value).toList nonempty decimal
  have same : Nat.ofDigitChars 10 (Nat.repr value).toList 0 = value := by
    rw [Nat.toList_repr]
    exact Nat.ofDigitChars_toDigits (by decide) (by decide)
  rw [same] at numeral
  exact numeral

theorem Addressed.last {form : AddressForm} (addressed : form.Addressed) :
    ∃ c ∈ form.authority.getLast?, c ≠ ':' := by
  rcases addressed.port with ⟨empty, plain⟩ | ⟨numeral, value, whole, number, _⟩
  · have member := List.getLast_mem addressed.host_some
    refine ⟨form.host.getLast addressed.host_some, ?_, ?_⟩
    · rw [authority, empty, List.append_nil]
      exact List.getLast?_eq_some_getLast addressed.host_some
    · intro colon
      rw [colon] at member
      exact plain member
  · obtain ⟨c, last, plain⟩ := number.last
    refine ⟨c, ?_, plain⟩
    rw [authority, whole, List.getLast?_append, List.getLast?_cons, Option.mem_def.mp last]
    rfl

/-- An authority without a scheme in front has no mark of one, unless its path has. -/
theorem Addressed.unmarked {form : AddressForm} (addressed : form.Addressed)
    (plain : ¬"://".toList <:+: form.path) : ¬"://".toList <:+: form.authority ++ form.path := by
  rintro ⟨before, after, whole⟩
  have mark : "://".toList = [':', '/', '/'] := by decide
  rw [mark] at plain whole
  rw [List.append_assoc] at whole
  -- The mark would lie in the path, or reach into the authority by one, two or three characters.
  rcases List.append_eq_append_iff.mp whole with ⟨gap, cut, marked⟩ | ⟨gap, _, marked⟩
  · match gap, cut, marked with
    | [], _, marked =>
      exact plain ⟨[], after, marked⟩
    | [c], cut, marked =>
      obtain ⟨last, ends, colon⟩ := addressed.last
      injection marked with first _
      rw [cut, ← first] at ends
      simp only [List.getLast?_append, List.getLast?_singleton, Option.some_or,
        Option.mem_def, Option.some.injEq] at ends
      exact colon ends.symm
    | c :: d :: rest, cut, marked =>
      injection marked with _ later
      injection later with slash _
      have inside : '/' ∈ form.authority := by
        rw [cut, ← slash]
        simp
      exact (addressed.plain '/' inside).1 rfl
  · refine plain ⟨gap, after, ?_⟩
    rw [marked, List.append_assoc]

end AddressForm

namespace ServerAddress

open AddressForm

section

variable {form : AddressForm} {server : ServerAddress}

theorem mem_host_of_isSeparator (means : form.Means server) (c : Char)
    (member : c ∈ server.host.toList) (separates : Text.isSeparator c = true) : c ∈ form.host := by
  rw [means.host, String.toList_ofList] at member
  exact Text.mem_of_separator_mem_lowercase form.host c member separates

theorem host_plain (means : form.Means server) (formed : form.WellFormed) :
    ∀ c ∈ server.host.toList, c ≠ '/' ∧ Text.isBlank c = false := by
  intro c member
  constructor
  · rintro rfl
    exact (formed.host '/' (mem_host_of_isSeparator means '/' member (by decide))).1 rfl
  · cases blank : Text.isBlank c with
    | false => rfl
    | true =>
      have separates : Text.isSeparator c = true := by
        simp [Text.isSeparator, blank]
      have outside := (formed.host c (mem_host_of_isSeparator means c member separates)).2
      rw [blank] at outside
      cases outside

theorem host_ne_nil (means : form.Means server) (formed : form.WellFormed) :
    server.host.toList ≠ [] := by
  rw [means.host, String.toList_ofList]
  exact Text.lowercase_ne_nil form.host formed.host_some

theorem host_uncut (means : form.Means server) (formed : form.WellFormed)
    (absent : server.port = none) : ':' ∉ server.host.toList := by
  intro member
  have colon := mem_host_of_isSeparator means ':' member (by decide)
  rcases means.port with ⟨empty, _⟩ | ⟨numeral, port, _, _, present⟩
  · rcases formed.port with ⟨_, plain⟩ | ⟨numeral, value, written, _⟩
    · exact plain colon
    · rw [empty] at written
      cases written
  · rw [absent] at present
    cases present

theorem core_addressed (means : form.Means server) (formed : form.WellFormed) :
    server.core.Addressed := by
  refine ⟨host_ne_nil means formed, host_plain means formed, ?_⟩
  cases port : server.port with
  | none =>
    refine .inl ⟨?_, host_uncut means formed port⟩
    simp only [core, written, port]
  | some number =>
    have bound : number.toNat < 65536 := number.toNat_lt
    have small : number.toNat ≤ 65535 := by omega
    refine .inr ⟨_, number.toNat, ?_, numeral_repr number.toNat, small⟩
    simp only [core, written, port]

theorem path_of_means (means : form.Means server) :
    ∃ slashes, form.path = server.written.path ++ List.replicate slashes '/' ∧
      server.suffix = readSuffix server.written.path := by
  obtain ⟨kept, slashes, whole, last, suffix⟩ := means.suffix
  have same : server.written.path = kept := by
    unfold written
    rw [suffix]
    by_cases empty : kept = []
    · simp [empty]
    · simp [empty]
  rw [same]
  refine ⟨slashes, whole, ?_⟩
  have again := readSuffix_of_kept kept 0 last
  rw [List.replicate_zero, List.append_nil] at again
  rw [again, suffix]

/-- The path of the core is the start of the path that was read. -/
theorem core_path_starts (means : form.Means server) : server.core.path <+: form.path := by
  obtain ⟨slashes, whole, _⟩ := path_of_means means
  obtain ⟨tail, kept, _⟩ := Text.dropTailWhile_spec Text.isBlank server.written.path
  refine ⟨tail ++ List.replicate slashes '/', ?_⟩
  rw [whole, ← List.append_assoc]
  congr 1
  exact kept.symm

theorem core_formed (means : form.Means server) (formed : form.WellFormed) :
    server.core.WellFormed := by
  have addressed := core_addressed means formed
  refine ⟨addressed, ?_, ?_⟩
  · rcases means.scheme with ⟨empty, absent⟩ | ⟨scheme, _, present⟩
    · have unled : server.core.lead = [] := by
        simp only [core, written, absent]
      refine .inl ⟨unled, ?_⟩
      rcases formed.lead with ⟨_, plain⟩ | ⟨scheme, named⟩
      · rw [text, unled, List.nil_append]
        apply addressed.unmarked
        intro marked
        apply plain
        refine (marked.trans (core_path_starts means).isInfix).trans ?_
        exact ((List.suffix_append form.authority form.path).trans
          (List.suffix_append form.lead _)).isInfix
      · rw [empty] at named
        cases scheme <;> cases named
    · refine .inr ⟨scheme, ?_⟩
      simp only [core, written, present]
      exact lead_lower scheme
  · obtain ⟨dropped, whole⟩ := core_path_starts means
    cases path : server.core.path with
    | nil => exact .inl rfl
    | cons c rest =>
      rw [path] at whole
      rcases formed.path with absent | ⟨others, slash⟩
      · rw [absent] at whole
        cases whole
      · rw [slash] at whole
        injection whole with first _
        exact .inr ⟨rest, by rw [first]⟩

theorem core_means (means : form.Means server) : server.core.Means server.reread := by
  refine ⟨?_, ?_, ?_, readSuffix_spec server.core.path⟩
  · cases scheme : server.scheme with
    | none =>
      refine .inl ⟨?_, scheme⟩
      simp only [core, written, scheme]
    | some named =>
      refine .inr ⟨named, ?_, scheme⟩
      simp only [core, written, scheme]
      exact lead_lower named
  · have lower : Text.lowercase server.host.toList = server.host.toList := by
      rw [means.host, String.toList_ofList, Text.lowercase_lowercase]
    change server.host = String.ofList (Text.lowercase server.host.toList)
    rw [lower, String.ofList_toList]
  · cases port : server.port with
    | none =>
      refine .inl ⟨?_, port⟩
      simp only [core, written, port]
    | some number =>
      refine .inr ⟨_, number, ?_, numeral_repr number.toNat, port⟩
      simp only [core, written, port]

theorem front_unblank (means : form.Means server) (formed : form.WellFormed) :
    ∀ c ∈ server.core.lead ++ server.core.authority, Text.isBlank c = false := by
  intro c member
  rcases List.mem_append.mp member with lead | authority
  · cases scheme : server.scheme with
    | none =>
      simp only [core, written, scheme] at lead
      cases lead
    | some named =>
      simp only [core, written, scheme] at lead
      have unblank : named.lead.toList.all (fun c => !Text.isBlank c) = true := by
        cases named <;> decide
      simpa using List.all_eq_true.mp unblank c lead
  · exact ((core_addressed means formed).plain c authority).2

theorem trimBlanks_display (means : form.Means server) (formed : form.WellFormed) :
    Text.trimBlanks server.display.toList = server.core.text := by
  have nonempty : server.core.lead ++ server.core.authority ≠ [] := by
    intro empty
    exact host_ne_nil means formed (List.append_eq_nil_iff.mp (List.append_eq_nil_iff.mp empty).2).1
  have trimmed := Text.trimBlanks_append _ server.written.path nonempty
    (.of_unblank (front_unblank means formed))
  rw [toList_display, text, ← List.append_assoc]
  exact trimmed.trans (List.append_assoc _ _ _)

end

/-- The normal form is read as the address without the blanks at the end of the path. -/
theorem parse_display_eq_reread (input : String) (server : ServerAddress)
    (read : parse input = .ok server) : parse server.display = .ok server.reread := by
  obtain ⟨form, _, formed, means⟩ := form_of_parse input server read
  exact parse_of_form server.display server.core server.reread
    (trimBlanks_display means formed).symm (core_formed means formed) (core_means means)

/-- An address can only be read back if nothing was trimmed off its path. -/
theorem core_path_of_reread (server : ServerAddress) (same : server.reread = server) :
    server.core.path = server.written.path := by
  have kept : Text.dropTailWhile (· = '/') server.core.path = server.written.path := by
    rw [← toList_readSuffix]
    exact congrArg (fun server => (server.suffix.getD "").toList) same
  obtain ⟨slashes, shorter, _⟩ := Text.dropTailWhile_spec (· = '/') server.core.path
  obtain ⟨blanks, longer, _⟩ := Text.dropTailWhile_spec Text.isBlank server.written.path
  rw [kept] at shorter
  change server.written.path = server.core.path ++ blanks at longer
  have nothing : blanks = [] := by
    have less := congrArg List.length shorter
    have more := congrArg List.length longer
    rw [List.length_append] at less more
    apply List.eq_nil_of_length_eq_zero
    omega
  rw [longer, nothing, List.append_nil]

theorem reread_eq_iff (input : String) (server : ServerAddress) (read : parse input = .ok server) :
    server.reread = server ↔ ¬server.EndsBlank := by
  constructor
  · rintro same ⟨c, last, blank⟩
    obtain ⟨_, _, _, unblank⟩ := Text.dropTailWhile_spec Text.isBlank server.written.path
    rw [← core_path_of_reread server same] at last
    have outside := unblank c last
    rw [blank] at outside
    cases outside
  · intro unended
    have kept : server.core.path = server.written.path := by
      apply Text.dropTailWhile_eq_self
      intro c last
      cases blank : Text.isBlank c with
      | false => rfl
      | true => exact absurd ⟨c, last, blank⟩ unended
    obtain ⟨form, _, _, means⟩ := form_of_parse input server read
    obtain ⟨_, _, suffix⟩ := path_of_means means
    unfold reread
    rw [kept, ← suffix]

end ServerAddress

/-- The normal form of an address is read with the same scheme, host and port, and with the same
path too exactly if no blank stands at its end. -/
theorem parse_display_eq_iff (input : String) (server : ServerAddress)
    (read : ServerAddress.parse input = .ok server) :
    (∃ again, ServerAddress.parse server.display = .ok again ∧ again.scheme = server.scheme ∧
      again.host = server.host ∧ again.port = server.port) ∧
      (ServerAddress.parse server.display = .ok server ↔ ¬server.EndsBlank) := by
  have parsed := ServerAddress.parse_display_eq_reread input server read
  refine ⟨⟨server.reread, parsed, rfl, rfl, rfl⟩, ?_⟩
  rw [parsed, Except.ok.injEq]
  exact ServerAddress.reread_eq_iff input server read

theorem parse_display_eq_iff_of_mixed_case :
    ServerAddress.parse "HTTPS://Ghe.Example.com:08443/base//" =
        .ok ⟨some .https, "ghe.example.com", some 8443, some "/base"⟩ ∧
      ServerAddress.parse "https://ghe.example.com:8443/base" =
        .ok ⟨some .https, "ghe.example.com", some 8443, some "/base"⟩ := by
  have read : ServerAddress.parse "HTTPS://Ghe.Example.com:08443/base//" =
      .ok ⟨some .https, "ghe.example.com", some 8443, some "/base"⟩ := by
    rfl
  refine ⟨read, (parse_display_eq_iff _ _ read).2.mpr ?_⟩
  rintro ⟨c, last, blank⟩
  cases last
  cases blank

/-- The blank between two slashes is left at the end of the path, and is lost in the normal
form. -/
theorem display_loses_blank_path :
    ServerAddress.parse "a/ /" = .ok ⟨none, "a", none, some "/ "⟩ ∧
      ServerAddress.display ⟨none, "a", none, some "/ "⟩ = "a/ " ∧
      ServerAddress.parse "a/ " = .ok ⟨none, "a", none, none⟩ ∧
      ServerAddress.parse (ServerAddress.display ⟨none, "a", none, some "/ "⟩) ≠
        .ok ⟨none, "a", none, some "/ "⟩ := by
  have lost : ServerAddress.parse "a/ " = .ok ⟨none, "a", none, none⟩ := by
    rfl
  have shown : ServerAddress.display ⟨none, "a", none, some "/ "⟩ = "a/ " := by
    rfl
  refine ⟨by rfl, shown, lost, ?_⟩
  rw [shown, lost]
  intro same
  cases same

end AccountKeeper
