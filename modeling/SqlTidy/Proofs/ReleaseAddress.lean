import SqlTidy.Proofs.Abort

/-!
# Addresses of releases

The address of a release names its version twice, with a slash between, and versions may have slashes of their
own. Half of the slashes behind the base therefore belong to the version, and they say where it ends
(`append_cons_inj_of_count_eq`). So an address names one version and one platform (`releaseUrl_names_release`).
-/

namespace SqlTidy

/-- Lists that go on behind a separator are the same if they have equally many separators before it. -/
theorem append_cons_inj_of_count_eq {sep : Char} {front front' rest rest' : List Char}
    (h : front ++ sep :: rest = front' ++ sep :: rest') (hcount : front.count sep = front'.count sep) :
    front = front' ∧ rest = rest' := by
  induction front generalizing front' with
  | nil =>
    cases front' with
    | nil => exact ⟨rfl, (List.cons.inj h).2⟩
    | cons c front' =>
      obtain ⟨rfl, -⟩ := List.cons.inj h
      simp at hcount
  | cons c front ih =>
    cases front' with
    | nil =>
      obtain ⟨rfl, -⟩ := List.cons.inj h
      simp at hcount
    | cons c' front' =>
      obtain ⟨rfl, hbehind⟩ := List.cons.inj h
      obtain ⟨rfl, hrest⟩ := ih hbehind (by simpa [List.count_cons] using hcount)
      exact ⟨rfl, hrest⟩

variable {base version version' : String} {platform platform' : Platform}

/-- What follows the first version in an address, behind a slash. -/
def addressTail (version : String) (platform : Platform) : List Char :=
  toolName.toList ++ '-' :: (version.toList ++ '-' :: (platform.text.toList ++ ".zip".toList))

theorem toList_releaseUrl : (releaseUrl base version platform).toList =
    (dropFinalSlashes base).toList ++ '/' :: 'v' :: (version.toList ++ '/' :: addressTail version platform) := by
  simp [releaseUrl, archiveName, addressTail]

/-- Behind the first version the slashes are those of the second. -/
theorem count_addressTail (h : '/' ∉ platform.text.toList) :
    (addressTail version platform).count '/' = version.toList.count '/' := by
  have htool : toolName.toList.count '/' = 0 := by decide
  have hend : ".zip".toList.count '/' = 0 := by decide
  rw [addressTail, List.count_append, htool, List.count_cons_of_ne (by decide), List.count_append,
    List.count_cons_of_ne (by decide), List.count_append, List.count_eq_zero.2 h, hend]
  omega

theorem releaseUrl_inj (h : '/' ∉ platform.text.toList) (h' : '/' ∉ platform'.text.toList)
    (heq : releaseUrl base version platform = releaseUrl base version' platform') :
    version = version' ∧ platform.text = platform'.text := by
  have hlist := congrArg String.toList heq
  rw [toList_releaseUrl, toList_releaseUrl] at hlist
  have hbehind : version.toList ++ '/' :: addressTail version platform =
      version'.toList ++ '/' :: addressTail version' platform' := by
    simpa using hlist
  have hcount : version.toList.count '/' = version'.toList.count '/' := by
    have hall := congrArg (List.count '/') hbehind
    rw [List.count_append, List.count_cons_self, count_addressTail h, List.count_append, List.count_cons_self,
      count_addressTail h'] at hall
    omega
  obtain ⟨hversion, htail⟩ := append_cons_inj_of_count_eq hbehind hcount
  have hversion := String.toList_inj.1 hversion
  subst hversion
  refine ⟨rfl, String.toList_inj.1 ?_⟩
  simpa [addressTail] using htail

/-- Releases of different versions or platforms have different addresses, whatever slashes and hyphens the version
has, and every address names an archive that is unpacked as a zip archive. -/
theorem releaseUrl_names_release (base version version' : String) (platform platform' : Platform)
    (h : '/' ∉ platform.text.toList) (h' : '/' ∉ platform'.text.toList) :
    (releaseUrl base version platform = releaseUrl base version' platform' →
      version = version' ∧ platform.text = platform'.text) ∧
    ".zip".toList <:+ (archiveNameOf (releaseUrl base version platform)).toList ∧
    isTarName (archiveNameOf (releaseUrl base version platform)) = false ∧
    ∀ (octets : Octets) (destination : Path),
      unpackArchive (archiveNameOf (releaseUrl base version platform)) octets destination =
        (Zip.unpack octets destination).mapError
          (unpackFailure (archiveNameOf (releaseUrl base version platform)) destination) := by
  obtain ⟨front, hfront⟩ := exists_toList_releaseUrl base version platform
  have hzip := isTarName_of_zip hfront
  refine ⟨releaseUrl_inj h h', ?_, hzip, fun octets destination => Downloader.unpackArchive_of_zip hzip⟩
  rw [toList_archiveNameOf_of_zip hfront]
  exact List.suffix_append _ _

/-- Two releases whose archives have the same name, at different addresses. -/
theorem releaseUrl_names_release_hyphens :
    '/' ∉ (Platform.mk "x64" "a").text.toList ∧ '/' ∉ (Platform.mk "linux" "x64-a").text.toList ∧
    archiveName "1-linux" ⟨"x64", "a"⟩ = archiveName "1" ⟨"linux", "x64-a"⟩ ∧
    releaseUrl releaseBase "1-linux" ⟨"x64", "a"⟩ ≠ releaseUrl releaseBase "1" ⟨"linux", "x64-a"⟩ := by
  have hx64 : '/' ∉ (Platform.mk "x64" "a").text.toList := by decide +kernel
  have hlinux : '/' ∉ (Platform.mk "linux" "x64-a").text.toList := by decide +kernel
  refine ⟨hx64, hlinux, by decide +kernel, fun heq => ?_⟩
  obtain ⟨hversion, -⟩ := (releaseUrl_names_release releaseBase _ _ _ _ hx64 hlinux).1 heq
  exact absurd hversion (by decide)

end SqlTidy
