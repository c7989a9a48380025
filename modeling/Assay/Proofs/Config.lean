import Assay.Config
import Assay.Proofs.Url.FilePath
import Mathlib

/-!
# Configurations as they are loaded

Loading a configuration changes no more than the paths in it. An absolute path and the address of
an endpoint are not among them. The address of a file is, though: it does not start at the root, so
it is put behind the directory and no longer is an address.
-/

namespace Assay

/-! ## Absolute sources -/

namespace Metric.Source

/-- A text is the address of a file or of an endpoint. An address without a host that is not of a
file, such as `C:/metrics.txt`, counts as a path. -/
def IsAddress (s : String) : Prop :=
  ∃ url ∈ Url.parse? s, url.scheme = "file" ∨ url.host.isSome = true

instance (s : String) : Decidable (IsAddress s) :=
  inferInstanceAs (Decidable (∃ url ∈ Url.parse? s, _))

/-- A text says where something is without regard to a directory. -/
def IsAbsolute (s : String) : Prop :=
  Path.isAbsolute s = true ∨ IsAddress s

instance (s : String) : Decidable (IsAbsolute s) :=
  inferInstanceAs (Decidable (_ ∨ _))

/-- A text is the address of a file, whatever the environment is. -/
def IsFileAddress (s : String) : Prop :=
  '$' ∉ s.toList ∧ ∃ url ∈ Url.parse? s, url.scheme = "file"

instance (s : String) : Decidable (IsFileAddress s) :=
  inferInstanceAs (Decidable (_ ∧ ∃ url ∈ Url.parse? s, _))

theorem read_of_notMem (env : Environment) {s : String} (h : '$' ∉ s.toList) :
    read env s = ofText s := by
  rw [read, env.expandText_of_notMem h]

theorem ofText_of_parse?_eq_none {s : String} (h : Url.parse? s = none) : ofText s = .file s := by
  rw [ofText, h]

theorem ofText_of_file {s : String} {url : Url} (h : Url.parse? s = some url)
    (hfile : url.scheme = "file") : ofText s = .file (url.filePath?.getD s) := by
  simp only [ofText, h, if_pos hfile]

theorem ofText_of_host {s : String} {url : Url} (h : Url.parse? s = some url)
    (hfile : url.scheme ≠ "file") (hhost : url.host.isSome = true) : ofText s = .endpoint url := by
  simp only [ofText, h, if_neg hfile, if_pos hhost]

end Metric.Source

/-! ## Paths relative to a directory -/

namespace Path

/-- Nothing that the text of a directory starts can be read as an address or a reference to the
environment. -/
def IsPlain (directory : String) : Prop :=
  '$' ∉ directory.toList ∧ ':' ∉ directory.toList

instance (directory : String) : Decidable (IsPlain directory) :=
  inferInstanceAs (Decidable (_ ∧ _))

theorem join_empty (path : String) : join "" path = path := by
  simp [join]

/-- A relative path stands behind a slash in its directory. -/
theorem toList_join {directory path : String} (hdirectory : directory ≠ "")
    (hpath : isAbsolute path = false) :
    ∃ front, front.Sublist directory.toList ∧
      (join directory path).toList = front ++ '/' :: path.toList := by
  have hrelative : ¬ (isAbsolute path || directory.isEmpty) = true := by
    simpa [hpath] using hdirectory
  rw [join, if_neg hrelative]
  split
  · rename_i hslash
    obtain ⟨front, hfront⟩ := List.getLast?_eq_some_iff.mp hslash
    refine ⟨front, hfront ▸ List.sublist_append_left _ _, ?_⟩
    rw [String.toList_append, hfront, List.append_assoc, List.singleton_append]
  · refine ⟨directory.toList, List.Sublist.refl _, ?_⟩
    rw [String.toList_append, String.toList_append, List.append_assoc]
    rfl

end Path

namespace Case

open Assay.Metric (Source)
open Assay.Metric.Source (IsAbsolute IsFileAddress)

variable {directory path : String}

theorem resolvePath_empty (path : String) : resolvePath "" path = path := by
  rw [resolvePath, Path.join_empty, ite_self]

theorem resolvePath_of_dollar (h : '$' ∈ path.toList) : resolvePath directory path = path := by
  rw [resolvePath, if_pos (by simp [h])]

theorem resolvePath_of_isAbsolute (h : Path.isAbsolute path = true) :
    resolvePath directory path = path := by
  rw [resolvePath, if_pos (by simp [h])]

theorem resolvePath_of_relative (hne : path ≠ "") (hdollar : '$' ∉ path.toList)
    (hpath : Path.isAbsolute path = false) :
    resolvePath directory path = Path.join directory path := by
  rw [resolvePath, if_neg (by simp [hne, hdollar, hpath])]

/-! ## Queries -/

/-- A query is the address of a file and there is a directory that it is put behind. -/
def Displaced (directory query : String) : Prop :=
  directory ≠ "" ∧ IsFileAddress query

instance (directory query : String) : Decidable (Displaced directory query) :=
  inferInstanceAs (Decidable (_ ∧ _))

/-- What loading makes of the query of a case. Unless it is displaced an absolute query, be it as it
is written or once it is expanded, stands for the same source. A displaced one becomes the path of
another file. -/
structure Relocated (env : Environment) (directory : String) (c c' : Case) : Prop where
  kept : IsAbsolute c.query ∨ IsAbsolute (env.expandText c.query) → ¬ Displaced directory c.query →
    Source.read env c'.query = Source.read env c.query
  displaced : Displaced directory c.query → Path.IsPlain directory →
    Source.read env c'.query = .file (Path.join directory c.query) ∧
    Source.read env c'.query ≠ Source.read env c.query

theorem query_resolve_of_resolvePath {env : Environment} {c : Case}
    (h : resolvePath directory c.query = c.query) :
    (c.resolve env directory).query = c.query := by
  rw [resolve]
  dsimp only
  rw [h, ite_self]

/-- An absolute query is left as it is if it is not the address of a file. -/
theorem query_resolve_of_not_displaced {env : Environment} {c : Case}
    (habsolute : IsAbsolute c.query ∨ IsAbsolute (env.expandText c.query))
    (h : ¬ Displaced directory c.query) : (c.resolve env directory).query = c.query := by
  by_cases hdollar : '$' ∈ c.query.toList
  · exact query_resolve_of_resolvePath (resolvePath_of_dollar hdollar)
  rw [env.expandText_of_notMem hdollar, or_self] at habsolute
  rcases habsolute with hpath | ⟨url, hurl, hkind⟩
  · exact query_resolve_of_resolvePath (resolvePath_of_isAbsolute hpath)
  by_cases hfile : url.scheme = "file"
  · obtain rfl : directory = "" := by
      by_contra hdirectory
      exact h ⟨hdirectory, hdollar, url, hurl, hfile⟩
    exact query_resolve_of_resolvePath (resolvePath_empty _)
  · have hhost : url.host.isSome = true := hkind.resolve_left hfile
    rw [resolve]
    dsimp only
    rw [Source.read_of_notMem env hdollar, Source.ofText_of_host hurl hfile hhost]
    rfl

theorem isAbsolute_eq_false_of_isFileAddress {query : String} (h : IsFileAddress query) :
    Path.isAbsolute query = false := by
  obtain ⟨-, url, hurl, -⟩ := h
  rw [Bool.eq_false_iff]
  intro habsolute
  rw [Path.isAbsolute, decide_eq_true_iff, List.head?_eq_some_iff] at habsolute
  obtain ⟨rest, hrest⟩ := habsolute
  have hnone := Url.parse?_append_slash (List.not_mem_nil (a := ':')) rest
  rw [List.nil_append, ← hrest, String.ofList_toList, hurl] at hnone
  exact Option.some_ne_none _ hnone

/-- The address of a file is put behind a directory like a relative path. -/
theorem query_resolve_of_displaced (env : Environment) {c : Case} (h : IsFileAddress c.query) :
    (c.resolve env directory).query = Path.join directory c.query := by
  have hpath := isAbsolute_eq_false_of_isFileAddress h
  obtain ⟨hdollar, url, hurl, hfile⟩ := h
  have hne : c.query ≠ "" := by
    intro hempty
    rw [hempty] at hurl
    have hnone : Url.parse? "" = none := by decide
    exact Option.some_ne_none _ (hurl.symm.trans hnone)
  rw [resolve]
  dsimp only
  rw [Source.read_of_notMem env hdollar, Source.ofText_of_file hurl hfile,
    resolvePath_of_relative hne hdollar hpath]
  rfl

/-- Behind a plain directory it is read as the path of another file. -/
theorem read_of_displaced (env : Environment) {query : String} (h : Displaced directory query)
    (hplain : Path.IsPlain directory) :
    Source.read env (Path.join directory query) = .file (Path.join directory query) ∧
      Source.read env (Path.join directory query) ≠ Source.read env query := by
  obtain ⟨hdirectory, haddress⟩ := h
  obtain ⟨front, hfront, hjoin⟩ :=
    Path.toList_join hdirectory (isAbsolute_eq_false_of_isFileAddress haddress)
  obtain ⟨hdollar, url, hurl, hfile⟩ := haddress
  -- neither a dollar sign nor a colon stands in front of the slash that joins the two
  have hread : Source.read env (Path.join directory query) = .file (Path.join directory query) := by
    have hdollars : '$' ∉ (Path.join directory query).toList := by
      rw [hjoin]
      simpa [hdollar] using fun hmem => hplain.1 (hfront.subset hmem)
    have hnone : Url.parse? (Path.join directory query) = none := by
      rw [← String.ofList_toList (s := Path.join directory query), hjoin]
      exact Url.parse?_append_slash (fun hmem => hplain.2 (hfront.subset hmem)) _
    rw [Source.read_of_notMem env hdollars, Source.ofText_of_parse?_eq_none hnone]
  refine ⟨hread, fun hsame => ?_⟩
  rw [hread, Source.read_of_notMem env hdollar, Source.ofText_of_file hurl hfile,
    Source.file.injEq] at hsame
  exact Url.filePath_ne_behind hurl hfile front (hsame ▸ hjoin)

theorem relocated_resolve (env : Environment) (directory : String) (c : Case) :
    Relocated env directory c (c.resolve env directory) where
  kept habsolute h := by rw [query_resolve_of_not_displaced habsolute h]
  displaced h hplain := by
    rw [query_resolve_of_displaced env h.2]
    exact read_of_displaced env h hplain

end Case

/-! ## Loading -/

namespace Config

open Assay.Metric (Source)
open Assay.Metric.Source (IsAbsolute)
open Case (Displaced Relocated)

/-- The configuration that is written in a file. -/
def written (files : Files) (path : String) : Except Error Config := do
  let text ← (files.read path).mapError (.file path)
  ((Yaml.source text.toList).read read).mapError fun _ => .document path

/-- Loading resolves the paths of what is written, and does nothing else. -/
theorem load_eq_map_written (env : Environment) (files : Files) (path : String) :
    load env files path = (written files path).map (resolve env (Path.parent path)) := by
  unfold load written
  cases (files.read path).mapError (Error.file path) with
  | error e => rfl
  | ok text =>
    cases h : ((Yaml.source text.toList).read read).mapError fun _ => Error.document path with
    | error e => simp [bind, Except.bind, h, Except.map]
    | ok config => simp [bind, Except.bind, h, Except.map, pure, Except.pure]

/-- **Loading a configuration changes no absolute query, other than the address of a file.** What is
written in a file loads, and an absolute path or the address of an endpoint stands for the same
source then. So does the address of a file that refers to the environment, or in a configuration
that lies in the working directory. Otherwise it becomes the path of another file, provided that the
directory is not read as the start of an address or a reference itself. -/
theorem load_keeps_absolute (env : Environment) {files : Files} {path : String} {config : Config}
    (h : written files path = .ok config) :
    ∃ loaded, load env files path = .ok loaded ∧
      List.Forall₂ (Relocated env (Path.parent path)) config.suite.cases loaded.suite.cases := by
  refine ⟨config.resolve env (Path.parent path), ?_, ?_⟩
  · rw [load_eq_map_written, h]
    rfl
  · rw [resolve, List.forall₂_map_right_iff, List.forall₂_same]
    exact fun c _ => Case.relocated_resolve env (Path.parent path) c

/-- A configuration in a directory, with the address of a file and the path that this stands for. -/
def addressFiles : Files where
  files := [(["d", "e2e.yaml"], .text ("\x7b\"assert\": \x7b\"cases\": [" ++
    "\x7b\"expected\": \"/e.json\", \"query\": \"file:///m\"\x7d, " ++
    "\x7b\"expected\": \"/e.json\", \"query\": \"/m\"\x7d]\x7d\x7d"))]

/-- What is written in it, with a query in place of the address. -/
def addressConfig (query : String) : Config where
  suite.cases := [{ expected := "/e.json", query }, { expected := "/e.json", query := "/m" }]

theorem written_addressFiles :
    written addressFiles "d/e2e.yaml" = .ok (addressConfig "file:///m") := by
  decide +kernel

/-- The path is kept and the address is displaced. -/
theorem load_keeps_absolute_path :
    written addressFiles "d/e2e.yaml" = .ok (addressConfig "file:///m") ∧
    Path.parent "d/e2e.yaml" = "d" ∧
    (IsAbsolute "/m" ∧ ¬ Displaced "d" "/m") ∧
    (IsAbsolute "file:///m" ∧ Displaced "d" "file:///m" ∧ Path.IsPlain "d") ∧
    ∃ loaded, load (fun _ => none) addressFiles "d/e2e.yaml" = .ok loaded ∧
      List.Forall₂ (Relocated (fun _ => none) (Path.parent "d/e2e.yaml"))
        (addressConfig "file:///m").suite.cases loaded.suite.cases :=
  ⟨written_addressFiles, by decide +kernel, by decide +kernel, by decide +kernel,
    load_keeps_absolute _ written_addressFiles⟩

/-- The address of the file `/m` becomes the path of another file. -/
theorem load_displaces_address :
    written addressFiles "d/e2e.yaml" = .ok (addressConfig "file:///m") ∧
    load (fun _ => none) addressFiles "d/e2e.yaml" = .ok (addressConfig "d/file:///m") ∧
    Source.read (fun _ => none) "file:///m" = .file "/m" ∧
    Source.read (fun _ => none) "d/file:///m" = .file "d/file:///m" := by
  refine ⟨written_addressFiles, ?_, ?_, by decide +kernel⟩
  · rw [load_eq_map_written, written_addressFiles]
    decide +kernel
  · -- the path is decoded by recursion on its length, which the kernel does not unfold
    rw [Source.read_of_notMem _ (by decide)]
    cbv

end Config

end Assay
