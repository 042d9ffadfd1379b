import DocumentSchema.Proofs.Text.Parts
import DocumentSchema.Proofs.Validation.Acceptance
import DocumentSchema.Proofs.Validation.Conformance

/-!
The hosts of web addresses.

A filter of domains is meant to look at the host of a web address, which a slash or a question mark
ends. What it does look at ends with a slash only, so that a query which directly follows the host
belongs to it. `Scalar.webUri_decided_by_host` says what every filter decides, and that this is a
decision about the host exactly if no query follows it directly.
-/

namespace DocumentSchema

namespace Text.Format

theorem eq_append_of_dropStart? {start cs rest : List Char}
    (found : dropStart? start cs = some rest) : cs = start ++ rest := by
  induction start generalizing cs with
  | nil => exact Option.some.inj found
  | cons s start ih =>
    cases cs with
    | nil => cases found
    | cons c cs =>
      unfold dropStart? at found
      split at found
      · next same => rw [same, ih found, List.cons_append]
      · cases found

/-- The characters of a web address: a scheme, a colon and two slashes, and what follows them. -/
theorem toList_of_isWebUri {text : String} (format : isWebUri text = true) :
    ∃ scheme rest, text.toList = scheme ++ ':' :: '/' :: '/' :: rest ∧ '/' ∉ scheme := by
  unfold isWebUri at format
  split at format
  · next rest found =>
    refine ⟨"https".toList, rest, ?_, by decide⟩
    rw [eq_append_of_dropStart? found]
    rfl
  · next rest found => exact ⟨"http".toList, rest, eq_append_of_dropStart? found, by decide⟩
  · cases format

end Text.Format

namespace Scalar

/-- Whether a character does not end a host. -/
def inHost (c : Char) : Bool :=
  c != '/' && c != '?'

/-- What follows the first two slashes of a text. -/
def afterSlashes (text : String) : List Char :=
  (text.toList.dropWhile (· != '/')).drop 2

/-- The host of a web address: what follows its two slashes, up to a slash or a question mark. -/
def host (text : String) : String :=
  String.ofList ((afterSlashes text).takeWhile inHost)

/-- Whether a question mark ends the host of a web address. -/
def QueryFollowsHost (text : String) : Prop :=
  ((afterSlashes text).dropWhile inHost).head? = some '?'

/-- The query that directly follows the host of a web address, up to a slash. -/
def hostQuery (text : String) : String :=
  String.ofList (((afterSlashes text).dropWhile inHost).takeWhile (· != '/'))

/-- Some allowed entry is the host, or for a filter that is not strict its end; or where none is
allowed, no refused entry is. -/
def AdmitsHost (filter : DomainFilter) (host : String) : Prop :=
  filter.Admits fun entry => if filter.strict then entry = host else entry.toList <:+ host.toList

/-- The part between the second and the third slash of a web address is its host, and the query that
directly follows it. -/
theorem hostPart_eq {text : String} (format : Text.Format.isWebUri text = true) :
    hostPart text = host text ++ hostQuery text := by
  obtain ⟨scheme, rest, letters, noSlash⟩ := Text.Format.toList_of_isWebUri format
  have split : text.toList = (scheme ++ [':']) ++ '/' :: ([] ++ '/' :: rest) := by simp [letters]
  have free : '/' ∉ scheme ++ [':'] := by simp [noSlash]
  have after : afterSlashes text = rest := by
    have scanned : ∀ c ∈ scheme ++ [':'], (c != '/') = true := by
      intro c member
      rw [bne_iff_ne]
      rintro rfl
      exact free member
    rw [afterSlashes, split, List.dropWhile_append_of_pos scanned]
    rfl
  have third : (Text.parts '/' text.toList)[2]? = some (rest.takeWhile (· != '/')) := by
    rw [split, Text.parts_append free, Text.parts_append List.not_mem_nil, ← Text.head?_parts,
      List.head?_eq_getElem?]
    rfl
  have inside : ∀ c ∈ rest.takeWhile inHost, (c != '/') = true := by
    intro c member
    have kept := List.mem_takeWhile_imp member
    simp only [inHost, Bool.and_eq_true] at kept
    exact kept.1
  have cut : rest.takeWhile (· != '/') =
      rest.takeWhile inHost ++ (rest.dropWhile inHost).takeWhile (· != '/') := by
    conv_lhs => rw [← List.takeWhile_append_dropWhile (p := inHost) (l := rest)]
    exact List.takeWhile_append_of_pos inside
  rw [hostPart, third, host, hostQuery, after, Option.getD_some, cut, String.ofList_append]

theorem acceptWebUri_iff {text : String} (filter : DomainFilter)
    (format : Text.Format.isWebUri text = true) :
    acceptWebUri filter (.str text) = some (.str text) ↔ AdmitsHost filter (hostPart text) := by
  rw [acceptWebUri, acceptText_eq_some_iff]
  simp only [Value.str.injEq, exists_eq_left', format, Bool.true_and, admits_iff, and_true]
  unfold AdmitsHost
  cases filter.strict <;> simp [endsIn, @eq_comm _ (hostPart text)]

theorem hostQuery_eq_empty_iff {text : String} :
    hostQuery text = "" ↔ ¬QueryFollowsHost text := by
  have ends : ∀ c ∈ ((afterSlashes text).dropWhile inHost).head?, c = '/' ∨ c = '?' := by
    intro c member
    have stop := List.head?_dropWhile_not inHost (afterSlashes text)
    rw [Option.mem_def.1 member] at stop
    simpa [inHost, Decidable.or_iff_not_imp_left] using stop
  rw [QueryFollowsHost, hostQuery, ← String.toList_inj, String.toList_ofList]
  cases after : (afterSlashes text).dropWhile inHost with
  | nil => simp
  | cons c rest =>
    rcases ends c (by simp [after]) with rfl | rfl <;> simp

/-- Every filter decides about the host of a web address and the query that directly follows it, and
about nothing behind that. It decides about the host alone exactly if no question mark ends it. -/
theorem webUri_decided_by_host {text : String} (format : Text.Format.isWebUri text = true) :
    (∀ filter, acceptWebUri filter (.str text) = some (.str text) ↔
      AdmitsHost filter (host text ++ hostQuery text)) ∧
    ((∀ filter, acceptWebUri filter (.str text) = some (.str text) ↔
      AdmitsHost filter (host text)) ↔ ¬QueryFollowsHost text) ∧
    ∀ other, Text.Format.isWebUri other = true → host other = host text →
      hostQuery other = hostQuery text → ∀ filter,
        (acceptWebUri filter (.str other) = some (.str other) ↔
          acceptWebUri filter (.str text) = some (.str text)) := by
  rw [← hostQuery_eq_empty_iff]
  refine ⟨fun filter => ?_, ⟨fun alone => ?_, fun none filter => ?_⟩, ?_⟩
  · rw [acceptWebUri_iff filter format, hostPart_eq format]
  · -- The strict filter that allows the host tells it from anything longer.
    have admitted : AdmitsHost ⟨[host text], [], true⟩ (host text) := by
      simp [AdmitsHost, DomainFilter.Admits]
    have decided := (acceptWebUri_iff _ format).1 ((alone _).2 admitted)
    rw [hostPart_eq format] at decided
    have same : host text = host text ++ hostQuery text := by
      simpa [AdmitsHost, DomainFilter.Admits] using decided
    rw [← String.toList_inj, String.toList_append, List.self_eq_append_right] at same
    exact String.toList_inj.1 same
  · rw [acceptWebUri_iff filter format, hostPart_eq format, none, String.append_empty]
  · intro other otherFormat sameHost sameQuery filter
    rw [acceptWebUri_iff filter format, acceptWebUri_iff filter otherFormat, hostPart_eq format,
      hostPart_eq otherFormat, sameHost, sameQuery]

/-- A slash in a path and a question mark behind it are no part of what is decided about. -/
theorem webUri_decided_by_host_path :
    Text.Format.isWebUri "https://example.com/a?b" = true ∧
      (acceptWebUri ⟨["example.com"], [], true⟩ (.str "https://example.com/a?b") =
          some (.str "https://example.com/a?b") ↔
        AdmitsHost ⟨["example.com"], [], true⟩ "example.com") := by
  have format : Text.Format.isWebUri "https://example.com/a?b" = true := by decide
  have isHost : host "https://example.com/a?b" = "example.com" := by decide
  have noQuery : ¬QueryFollowsHost "https://example.com/a?b" := by
    unfold QueryFollowsHost
    decide
  have decided := (webUri_decided_by_host format).2.1.2 noQuery
  rw [isHost] at decided
  exact ⟨format, decided _⟩

/-- A refused host passes when a question mark follows it. -/
theorem refused_host_admitted :
    Text.Format.isWebUri "https://example.com?a" = true ∧
      host "https://example.com?a" = "example.com" ∧
      ¬AdmitsHost ⟨[], ["example.com"], false⟩ "example.com" ∧
      acceptWebUri ⟨[], ["example.com"], false⟩ (.str "https://example.com?a") =
        some (.str "https://example.com?a") ∧
      acceptWebUri ⟨[], ["example.com"], false⟩ (.str "https://example.com/?a") = none := by
  refine ⟨by decide, by decide, by simp [AdmitsHost, DomainFilter.Admits], rfl, rfl⟩

end Scalar

end DocumentSchema
