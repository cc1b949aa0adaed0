import AccountKeeper.Proofs.Server.Rereading

/-!
# Addresses of one interface

Which addresses that were read name the same base of the REST interface.  Two
different ones do so exactly if they differ in the scheme alone and the scheme
does not matter: it does not for the public server, and on other servers no
scheme means `https`.
-/

set_option autoImplicit false

namespace AccountKeeper

namespace ServerAddress

/-- The addresses differ in the scheme alone, and where they lead does not depend on it. -/
structure Respells (server other : ServerAddress) : Prop where
  host : server.host = other.host
  port : server.port = other.port
  suffix : server.suffix = other.suffix
  scheme : server.scheme ≠ other.scheme
  immaterial : server.isDefault = true ∨
    server.scheme ≠ some .http ∧ other.scheme ≠ some .http

/-- The address was read from a text. -/
def Parsed (server : ServerAddress) : Prop :=
  ∃ input, parse input = .ok server

open AddressForm

/-! ## Written out -/

section

variable {form : AddressForm} {server : ServerAddress}

theorem suffix_of_means (means : form.Means server) : server.suffix = readSuffix form.path := by
  obtain ⟨kept, slashes, whole, last, suffix⟩ := means.suffix
  rw [suffix, whole, readSuffix_of_kept kept slashes last]

theorem means_unique (formed : form.WellFormed) (means : form.Means server)
    {other : ServerAddress} (means' : form.Means other) : server = other := by
  have schemes := means.readScheme formed
  rw [means'.readScheme formed, Except.ok.injEq, Prod.mk.injEq] at schemes
  have authorities := means.readAuthority formed
  rw [means'.readAuthority formed, Except.ok.injEq, Prod.mk.injEq] at authorities
  have hosts : server.host = other.host := means.host.trans means'.host.symm
  have suffixes : server.suffix = other.suffix :=
    (suffix_of_means means).trans (suffix_of_means means').symm
  obtain ⟨scheme, host, port, suffix⟩ := server
  obtain ⟨scheme', host', port', suffix'⟩ := other
  dsimp only at schemes authorities hosts suffixes
  rw [schemes.1, authorities.2, hosts, suffixes]

/-- The parts of the normal form mean the address, also where its path ends in blanks. -/
theorem written_means (means : form.Means server) : server.written.Means server := by
  have core := core_means means
  obtain ⟨_, _, suffix⟩ := path_of_means means
  refine ⟨core.scheme, core.host, core.port, ?_⟩
  rw [suffix]
  exact readSuffix_spec server.written.path

theorem written_formed (means : form.Means server) (formed : form.WellFormed) {scheme : Scheme}
    (explicit : server.scheme = some scheme) : server.written.WellFormed := by
  have addressed := core_addressed means formed
  obtain ⟨slashes, whole, _⟩ := path_of_means means
  refine ⟨⟨addressed.host_some, addressed.host, addressed.port⟩, .inr ⟨scheme, ?_⟩, ?_⟩
  · unfold written
    rw [explicit]
    exact lead_lower scheme
  · cases path : server.written.path with
    | nil => exact .inl rfl
    | cons c rest =>
      rw [path] at whole
      rcases formed.path with pathless | ⟨others, slash⟩
      · rw [pathless] at whole
        cases whole
      · rw [slash] at whole
        injection whole with first _
        exact .inr ⟨rest, by rw [first]⟩

end

/-- The address with its scheme written out. -/
def explicit (server : ServerAddress) : ServerAddress :=
  { server with scheme := some (server.scheme.getD .https) }

theorem display_explicit (server : ServerAddress) : server.explicit.display = server.url := rfl

theorem explicit_form {server : ServerAddress} (parsed : server.Parsed) :
    server.explicit.written.WellFormed ∧ server.explicit.written.Means server.explicit := by
  obtain ⟨input, read⟩ := parsed
  obtain ⟨form, _, formed, means⟩ := form_of_parse input server read
  let lead := (server.scheme.getD .https).lead.toList
  have named : Names lead (server.scheme.getD .https) := lead_lower _
  have formed' : ({ form with lead } : AddressForm).WellFormed :=
    ⟨⟨formed.host_some, formed.host, formed.port⟩, .inr ⟨_, named⟩, formed.path⟩
  have means' : ({ form with lead } : AddressForm).Means server.explicit :=
    ⟨.inr ⟨_, named, rfl⟩, means.host, means.port, means.suffix⟩
  exact ⟨written_formed means' formed' rfl, written_means means'⟩

/-- A written-out address can be told from its text. -/
theorem explicit_eq_of_url_eq {server other : ServerAddress} (parsed : server.Parsed)
    (parsed' : other.Parsed) (same : server.url = other.url) :
    server.explicit = other.explicit := by
  obtain ⟨formed, means⟩ := explicit_form parsed
  obtain ⟨formed', means'⟩ := explicit_form parsed'
  have texts : server.explicit.written.text = other.explicit.written.text := by
    rw [← toList_display, ← toList_display, display_explicit, display_explicit, same]
  rw [AddressForm.eq_of_text_eq texts formed formed'] at means
  exact means_unique formed' means means'

/-! ## Bases of interfaces -/

theorem isDefault_congr {server other : ServerAddress} (host : server.host = other.host)
    (port : server.port = other.port) (suffix : server.suffix = other.suffix) :
    server.isDefault = other.isDefault := by
  unfold isDefault
  rw [host, port, suffix]

theorem apiUrl_ne_of_isDefault {server other : ServerAddress} (isPublic : server.isDefault = true)
    (isPrivate : other.isDefault = false) : server.apiUrl ≠ other.apiUrl := by
  intro same
  unfold apiUrl at same
  rw [if_pos isPublic, if_neg (by simp [isPrivate])] at same
  have last := congrArg (fun text => text.toList.getLast?) same
  simp [String.toList_append] at last

/-- Different schemes are the same when written out if neither of them is `http`. -/
theorem explicit_scheme_eq_iff {scheme other : Option Scheme} (differ : scheme ≠ other) :
    scheme.getD .https = other.getD .https ↔ scheme ≠ some .http ∧ other ≠ some .http := by
  rcases scheme with _ | _ | _ <;> rcases other with _ | _ | _ <;> simp at differ ⊢

theorem eq_or_respells {server other : ServerAddress} (host : server.host = other.host)
    (port : server.port = other.port) (suffix : server.suffix = other.suffix)
    (immaterial : server.scheme ≠ other.scheme → server.isDefault = true ∨
      server.scheme ≠ some .http ∧ other.scheme ≠ some .http) :
    server = other ∨ server.Respells other := by
  by_cases scheme : server.scheme = other.scheme
  · left
    obtain ⟨_, _, _, _⟩ := server
    obtain ⟨scheme', host', port', suffix'⟩ := other
    dsimp only at host port suffix scheme
    rw [host, port, suffix, scheme]
  · exact .inr ⟨host, port, suffix, scheme, immaterial scheme⟩

/-- Two addresses that were read name one interface if they are the same address, or the same up
to a scheme that does not matter, and in no other case. -/
theorem apiUrl_eq_iff {server other : ServerAddress} (parsed : server.Parsed)
    (parsed' : other.Parsed) :
    server.apiUrl = other.apiUrl ↔ server = other ∨ server.Respells other := by
  constructor
  · intro same
    cases isPublic : server.isDefault with
    | true =>
      have isPublic' : other.isDefault = true := by
        rw [← Bool.not_eq_false]
        intro isPrivate
        exact apiUrl_ne_of_isDefault isPublic isPrivate same
      have parts := isPublic
      have parts' := isPublic'
      simp only [isDefault, Bool.and_eq_true, decide_eq_true_eq, Option.isNone_iff_eq_none]
        at parts parts'
      obtain ⟨⟨host, port⟩, suffix⟩ := parts
      obtain ⟨⟨host', port'⟩, suffix'⟩ := parts'
      exact eq_or_respells (host.trans host'.symm) (port.trans port'.symm)
        (suffix.trans suffix'.symm) fun _ => .inl isPublic
    | false =>
      have isPrivate' : other.isDefault = false := by
        rw [← Bool.not_eq_true]
        intro isPublic'
        exact apiUrl_ne_of_isDefault isPublic' isPublic same.symm
      unfold apiUrl at same
      rw [if_neg (by simp [isPublic]), if_neg (by simp [isPrivate'])] at same
      have urls : server.url = other.url := by
        have texts := congrArg String.toList same
        rw [String.toList_append, String.toList_append] at texts
        exact String.toList_inj.mp (List.append_cancel_right texts)
      have explicits := explicit_eq_of_url_eq parsed parsed' urls
      simp only [explicit, mk.injEq, Option.some.injEq] at explicits
      obtain ⟨schemes, host, port, suffix⟩ := explicits
      exact eq_or_respells host port suffix fun differ =>
        .inr ((explicit_scheme_eq_iff differ).mp schemes)
  · rintro (rfl | respells)
    · rfl
    · have publics := isDefault_congr respells.host respells.port respells.suffix
      unfold apiUrl
      rw [publics]
      rcases respells.immaterial with isPublic | plain
      · rw [← publics, if_pos isPublic, if_pos isPublic]
      · unfold url authorityAndSuffix
        rw [(explicit_scheme_eq_iff respells.scheme).mpr plain, respells.host, respells.port,
          respells.suffix]

end ServerAddress

end AccountKeeper
