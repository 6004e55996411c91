/-
HostedModules.Proofs.Admin.Segments — the segments of a path, read back, and
what requests address.

A path is `apps`, then a segment for the project, then one for each name.  A
segment is made of characters that mean nothing to an address, so the path falls
apart at its slashes as it was put together, and each segment is decoded to the
name that it stands for.

* `Path.Escaped` — unreserved characters and escapes
* `Path.unescape?` — the text that a segment stands for
* `Path.escaped_grammar`, `Path.unescape?_escaped` — a name as a segment, and
  back
* `Path.resource_texts`, `Path.splitOn_joined` — the path of some names, and its
  segments
* `Path.Spells`, `Path.spells_joined` — a path of one segment for each name, and
  no query and no fragment
* `Admin.Resource` — the application, its services and versions, and the lists
  of both
* `Admin.Resource.path`, `Admin.Resource.resource_eq_path` — where a resource is
  found
* `Admin.Resource.path_injective` — no two resources, even of different
  projects, are found in one place
* `Admin.Resource.notFound` — what is said when a resource is not there
-/
import HostedModules.Admin.Operations
import Mathlib.Data.List.Basic

namespace HostedModules

namespace Path

/-- A text as a path segment. -/
def escaped (text : String) : String := encodeBytes (Wire.utf8 text)

/-! ## The grammar of segments -/

/-- An ASCII letter or digit, or one of four marks. -/
def Unreserved (c : Char) : Prop :=
  'A' ≤ c ∧ c ≤ 'Z' ∨ 'a' ≤ c ∧ c ≤ 'z' ∨ '0' ≤ c ∧ c ≤ '9' ∨
    c ∈ ['_', '.', '-', '~']

/-- A hexadecimal digit as escapes are written with. -/
def UpperHex (c : Char) : Prop := '0' ≤ c ∧ c ≤ '9' ∨ 'A' ≤ c ∧ c ≤ 'F'

/-- Unreserved characters and escapes. -/
inductive Escaped : List Char → Prop
  | nil : Escaped []
  | plain {c : Char} {rest : List Char} (hc : Unreserved c)
      (hrest : Escaped rest) : Escaped (c :: rest)
  | escape {high low : Char} {rest : List Char} (hhigh : UpperHex high)
      (hlow : UpperHex low)
      (hrest : Escaped rest) : Escaped ('%' :: high :: low :: rest)

/-- The character does not end a segment, nor the whole path. -/
def Inert (c : Char) : Prop := c ≠ '/' ∧ c ≠ '?' ∧ c ≠ '#'

theorem Unreserved.inert {c : Char} (h : Unreserved c) : Inert c := by
  refine ⟨?_, ?_, ?_⟩ <;> rintro rfl <;>
    exact absurd h (by unfold Unreserved; decide)

theorem Unreserved.ne_percent {c : Char} (h : Unreserved c) : c ≠ '%' := by
  rintro rfl
  exact absurd h (by unfold Unreserved; decide)

theorem UpperHex.inert {c : Char} (h : UpperHex c) : Inert c := by
  refine ⟨?_, ?_, ?_⟩ <;> rintro rfl <;>
    exact absurd h (by unfold UpperHex; decide)

/-- No character of a segment ends it, or the path. -/
theorem Escaped.inert {cs : List Char} (h : Escaped cs) :
    ∀ c ∈ cs, Inert c := by
  induction h with
  | nil => simp
  | plain hc hrest ih => simpa using ⟨hc.inert, ih⟩
  | escape hhigh hlow hrest ih =>
      have hpercent : Inert '%' := by unfold Inert; decide
      simpa using ⟨hpercent, hhigh.inert, hlow.inert, ih⟩

/-! ## Decoding -/

/-- The value of a hexadecimal digit, in upper or lower case. -/
def hexValue? (c : Char) : Option Nat :=
  if '0' ≤ c ∧ c ≤ '9' then some (c.toNat - 48)
  else if 'A' ≤ c ∧ c ≤ 'F' then some (c.toNat - 55)
  else if 'a' ≤ c ∧ c ≤ 'f' then some (c.toNat - 87)
  else none

/-- The bytes that a segment stands for: an escape for the byte of its digits,
any other ASCII character for itself. -/
def unescapeBytes? : List Char → Option (List UInt8)
  | [] => some []
  | '%' :: high :: low :: rest => do
    let h ← hexValue? high
    let l ← hexValue? low
    let bytes ← unescapeBytes? rest
    pure (UInt8.ofNat (16 * h + l) :: bytes)
  | c :: rest =>
    if c = '%' ∨ 128 ≤ c.toNat then none
      else (unescapeBytes? rest).map (UInt8.ofNat c.toNat :: ·)

/-- The text that a segment stands for, its bytes taken for UTF-8. -/
def unescape? (segment : String) : Option String :=
  (unescapeBytes? segment.toList).bind Wire.text?

theorem hexValue?_hexDigit : ∀ n < 16, hexValue? (hexDigit n) = some n := by decide

theorem upperHex_hexDigit : ∀ n < 16, UpperHex (hexDigit n) :=
  by unfold UpperHex; decide

theorem toNat_lt_of_unreserved {b : UInt8} (h : unreserved b = true) :
    b.toNat < 128 := by
  simp only [unreserved, Bool.or_eq_true, Bool.and_eq_true, decide_eq_true_eq] at h
  omega

theorem toNat_ofNat_byte (b : UInt8) :
    (Char.ofNat b.toNat).toNat = b.toNat := by
  have hb := b.toNat_lt
  have hvalid : b.toNat.isValidChar := Or.inl (by omega)
  rw [Char.ofNat, dif_pos hvalid]
  rfl

theorem unreserved_iff {b : UInt8} :
    unreserved b = true ↔ Unreserved (Char.ofNat b.toNat) := by
  have hall : ∀ n < 256, unreserved (UInt8.ofNat n) = true ↔
      Unreserved (Char.ofNat n) := by
    unfold Unreserved; decide +kernel
  have h := hall b.toNat b.toNat_lt
  rwa [UInt8.ofNat_toNat] at h

/-- What is written for a byte is read back as that byte. -/
theorem unescapeBytes?_encodeByte (b : UInt8) (rest : List Char) :
    unescapeBytes? (encodeByte b ++ rest) =
      (unescapeBytes? rest).map (b :: ·) := by
  have hb := b.toNat_lt
  unfold encodeByte
  split
  · next h =>
      have hpercent : Char.ofNat b.toNat ≠ '%' :=
        (unreserved_iff.1 h).ne_percent
      have hascii := toNat_lt_of_unreserved h
      rw [List.singleton_append, unescapeBytes?]
      · rw [toNat_ofNat_byte, if_neg (by simp [hpercent]; omega),
          UInt8.ofNat_toNat]
      · exact fun _ _ _ heq => absurd heq hpercent
  · have hbyte : UInt8.ofNat (16 * (b.toNat / 16) + b.toNat % 16) = b := by
      rw [Nat.div_add_mod, UInt8.ofNat_toNat]
    simp only [List.cons_append, List.nil_append, unescapeBytes?,
      hexValue?_hexDigit _ (by omega : b.toNat / 16 < 16),
      hexValue?_hexDigit _ (by omega : b.toNat % 16 < 16), Option.bind_eq_bind,
        Option.bind_some, hbyte]
    cases unescapeBytes? rest <;> rfl

theorem unescapeBytes?_flatMap (bytes : List UInt8) :
    unescapeBytes? (bytes.flatMap encodeByte) = some bytes := by
  induction bytes with
  | nil => rfl
  | cons b rest ih => rw [List.flatMap_cons, unescapeBytes?_encodeByte, ih]; rfl

/-- A segment is decoded to the name that it stands for. -/
theorem unescape?_escaped (text : String) :
    unescape? (escaped text) = some text := by
  rw [unescape?, escaped, encodeBytes, String.toList_ofList,
    unescapeBytes?_flatMap]
  exact Wire.text?_utf8 text

theorem escaped_encodeByte (b : UInt8) {rest : List Char} (h : Escaped rest) :
    Escaped (encodeByte b ++ rest) := by
  have hb := b.toNat_lt
  unfold encodeByte
  split
  · next hunreserved => exact .plain (unreserved_iff.1 hunreserved) h
  · exact .escape (upperHex_hexDigit _ (by omega))
      (upperHex_hexDigit _ (by omega)) h

/-- Every name becomes a segment. -/
theorem escaped_grammar (text : String) : Escaped (escaped text).toList := by
  rw [escaped, encodeBytes, String.toList_ofList]
  induction Wire.utf8 text with
  | nil => exact .nil
  | cons b rest ih => exact escaped_encodeByte b ih

/-! ## Paths -/

theorem segments_texts :
    ∀ names : List String, segments (names.map .text) = .ok (names.map escaped)
  | [] => rfl
  | name :: rest => by
      simp only [List.map_cons, segments, segments_texts rest]
      rfl

/-- The path of the resource that names lead to. -/
def joined (project : String) (parts : List String) : String :=
  "apps/" ++ String.intercalate "/" ((project :: parts).map escaped)

theorem resource_texts (project : String) (parts : List String) :
    resource (.text project) (parts.map .text) = .ok (joined project parts) := by
  have hsegments := segments_texts (project :: parts)
  rw [List.map_cons] at hsegments
  rw [resource, hsegments]
  rfl

theorem toList_joined (project : String) (parts : List String) :
    (joined project parts).toList =
      ['/'].intercalate ("apps".toList :: (project :: parts).map fun name =>
        (escaped name).toList) := by
  have hslash : "/".toList = ['/'] := rfl
  have hmap : ((project :: parts).map escaped).map String.toList =
      (project :: parts).map fun name => (escaped name).toList := List.map_map
  rw [joined, String.toList_append, String.toList_intercalate, hslash, hmap,
    List.map_cons, List.intercalate_cons_cons]
  rfl

/-- A path falls apart at its slashes as it was put together. -/
theorem splitOn_joined (project : String) (parts : List String) :
    List.splitOn '/' (joined project parts).toList =
      "apps".toList :: (project :: parts).map fun name =>
        (escaped name).toList := by
  rw [toList_joined]
  refine List.splitOn_intercalate '/' ?_ (List.cons_ne_nil _ _)
  intro segment hmem
  rcases List.mem_cons.1 hmem with rfl | hmem
  · decide
  · obtain ⟨name, -, rfl⟩ := List.mem_map.1 hmem
    exact fun hslash => ((escaped_grammar name).inert '/' hslash).1 rfl

theorem of_mem_intercalate {sep c : Char} :
    ∀ {pieces : List (List Char)}, c ∈ [sep].intercalate pieces → c = sep ∨
      ∃ piece ∈ pieces, c ∈ piece
  | [], h => nomatch h
  | [piece], h => by
      rw [List.intercalate_singleton] at h
      exact .inr ⟨piece, List.mem_cons_self, h⟩
  | piece :: next :: rest, h => by
      rw [List.intercalate_cons_cons, List.mem_append, List.mem_append,
        List.mem_singleton] at h
      rcases h with (h | h) | h
      · exact .inr ⟨piece, List.mem_cons_self, h⟩
      · exact .inl h
      · obtain h | ⟨other, hmem, h⟩ := of_mem_intercalate h
        · exact .inl h
        · exact .inr ⟨other, List.mem_cons_of_mem _ hmem, h⟩

/-- A path has no query and no fragment. -/
theorem not_mem_joined (project : String) (parts : List String) :
    '?' ∉ (joined project parts).toList ∧ '#' ∉ (joined project parts).toList := by
  have hmem : ∀ c ∈ (joined project parts).toList, c ≠ '?' ∧ c ≠ '#' := by
    intro c hc
    rw [toList_joined] at hc
    obtain rfl | ⟨piece, hpiece, hc⟩ := of_mem_intercalate hc
    · decide
    · rcases List.mem_cons.1 hpiece with rfl | hpiece
      · have happs : ∀ c ∈ ['a', 'p', 'p', 's'], c ≠ '?' ∧ c ≠ '#' := by simp
        exact happs c hc
      · obtain ⟨name, -, rfl⟩ := List.mem_map.1 hpiece
        exact ((escaped_grammar name).inert c hc).2
  exact ⟨fun h => (hmem _ h).1 rfl, fun h => (hmem _ h).2 rfl⟩

/-- The path is `apps` and one segment for each name, the project first: a
segment is made of unreserved characters and escapes, and is decoded to its
name.  There is no query and no fragment. -/
structure Spells (path project : String) (parts : List String) : Prop where
  levels : ∃ segments : List String, List.splitOn '/' path.toList =
    ("apps" :: segments).map String.toList ∧
    (∀ segment ∈ segments, Escaped segment.toList) ∧
      segments.map unescape? = (project :: parts).map some
  query : '?' ∉ path.toList
  fragment : '#' ∉ path.toList

theorem spells_joined (project : String) (parts : List String) :
    Spells (joined project parts) project parts := by
  obtain ⟨hquery, hfragment⟩ := not_mem_joined project parts
  refine ⟨⟨(project :: parts).map escaped, ?_, ?_, ?_⟩, hquery, hfragment⟩
  · rw [splitOn_joined]
    simp
  · intro segment hmem
    obtain ⟨name, -, rfl⟩ := List.mem_map.1 hmem
    exact escaped_grammar name
  · rw [List.map_map]
    exact List.map_congr_left fun name _ => unescape?_escaped name

/-- A path spells the names of one resource of one project. -/
theorem Spells.unique {path project project' : String}
    {parts parts' : List String} (h : Spells path project parts)
    (h' : Spells path project' parts') :
    project' = project ∧ parts' = parts := by
  obtain ⟨segments, hsplit, -, hnames⟩ := h.levels
  obtain ⟨segments', hsplit', -, hnames'⟩ := h'.levels
  have hsame : segments' = segments := by
    have hlists :=
      List.map_injective_iff.2 (fun s t hst => String.toList_injective hst)
        (hsplit'.symm.trans hsplit)
    exact (List.cons.inj hlists).2
  rw [hsame, hnames] at hnames'
  obtain ⟨hproject, hparts⟩ :=
    List.cons.inj (List.map_injective_iff.2 (fun s t hst => Option.some.inj hst) hnames')
  exact ⟨hproject.symm, hparts.symm⟩

end Path

/-! ## Resources -/

namespace Admin

/-- What a request can address within a project. -/
inductive Resource where
  | application
  | services
  | service (name : String)
  | versions (moduleName : String)
  | version (moduleName name : String)
deriving DecidableEq, Repr

namespace Resource

/-- The names that lead from the project to the resource. -/
def parts : Resource → List String
  | .application => []
  | .services => ["services"]
  | .service name => ["services", name]
  | .versions moduleName => ["services", moduleName, "versions"]
  | .version moduleName name => ["services", moduleName, "versions", name]

/-- Where the resource of a project is found. -/
def path (project : String) (resource : Resource) : String :=
  "apps/" ++ String.intercalate "/"
    ((project :: resource.parts).map Path.escaped)

/-- What is said when the resource of a project is not there: a list is missed
with what it belongs to. -/
def notFound (project : String) : Resource → Failure
  | .application | .services => projectNotFound (.text project)
  | .service name | .versions name => moduleNotFound (.text name)
  | .version moduleName name => versionNotFound (.text moduleName) (.text name)

theorem resource_eq_path (project : String) (resource : Resource) :
    Path.resource (.text project) (resource.parts.map .text) =
      .ok (resource.path project) :=
  Path.resource_texts project resource.parts

theorem parts_injective {a b : Resource} (h : a.parts = b.parts) : a = b := by
  cases a <;> cases b <;> simp_all [parts]

/-- **A path addresses one resource of one project.** -/
theorem path_injective {project project' : String} {a b : Resource}
    (h : a.path project = b.path project') :
    project = project' ∧ a = b := by
  have hspells : Path.Spells (a.path project) project a.parts :=
    Path.spells_joined project a.parts
  rw [h] at hspells
  obtain ⟨hproject, hparts⟩ :=
    hspells.unique (Path.spells_joined project' b.parts)
  exact ⟨hproject.symm, parts_injective hparts.symm⟩

end Resource
end Admin

end HostedModules
