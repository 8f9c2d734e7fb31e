import SqlTidy.Proofs.Spawning
import SqlTidy.Proofs.TextOctets
import SqlTidy.Proofs.WriteBack
import SqlTidy.Shell.Programs

/-!
# Texts that come back

A program that copies its input to its output gives a text back with one kind of line boundary: every carriage
return, alone or with the line feed behind it, has become a line feed (`LineFed`), and nothing else has
changed. The octets of a text are read as that text, so what is changed is changed in the text and not in its
octets, and no character is ever replaced (`text_comes_back`).
-/

namespace SqlTidy

/-! ## Line feeds -/

/-- A text with a line feed for every carriage return and for every carriage return with a line feed behind it. -/
inductive LineFed : List Char → List Char → Prop
  | nil : LineFed [] []
  | pair {rest out : List Char} : LineFed rest out → LineFed ('\r' :: '\n' :: rest) ('\n' :: out)
  | lone {rest out : List Char} : rest.head? ≠ some '\n' → LineFed rest out → LineFed ('\r' :: rest) ('\n' :: out)
  | other {c : Char} {rest out : List Char} : c ≠ '\r' → LineFed rest out → LineFed (c :: rest) (c :: out)

theorem lineFed_unifyNewlines (cs : List Char) : LineFed cs (unifyNewlines cs) := by
  fun_induction unifyNewlines cs with
  | case1 => exact .nil
  | case2 rest ih => exact .pair ih
  | case3 rest hpair ih =>
    refine .lone (fun hhead => ?_) ih
    obtain ⟨more, rfl⟩ := List.head?_eq_some_iff.1 hhead
    exact hpair more rfl
  | case4 c rest _ hlone ih => exact .other hlone ih

namespace LineFed

variable {cs out : List Char}

/-- All but carriage returns and line feeds are kept. -/
theorem count_eq (h : LineFed cs out) {c : Char} (hreturn : c ≠ '\r') (hfeed : c ≠ '\n') :
    out.count c = cs.count c := by
  induction h with
  | nil => rfl
  | pair _ ih => rw [List.count_cons_of_ne hfeed.symm, List.count_cons_of_ne hreturn.symm,
      List.count_cons_of_ne hfeed.symm, ih]
  | lone _ _ ih => rw [List.count_cons_of_ne hfeed.symm, List.count_cons_of_ne hreturn.symm, ih]
  | other _ _ ih => rw [List.count_cons, List.count_cons, ih]

end LineFed

theorem lineFed_outputText (text : String) : LineFed text.toList (outputText (utf8Encode text)).toList := by
  rw [outputText, utf8DecodeLenient_utf8Encode, String.toList_ofList]
  exact lineFed_unifyNewlines text.toList

/-! ## Children -/

namespace Invoker

variable {i : Invoker} {executable text : String} {arguments : List String} {t : FileTree} {child : Program}
  {p : Process}

/-- The program that a run on a text comes to, and the process that it runs as. -/
def Spawns (i : Invoker) (executable : String) (arguments : List String) (text : String) (t : FileTree)
    (child : Program) (p : Process) : Prop :=
  ∃ file, i.resolve t executable = some file ∧
    i.launch.Spawns file arguments (utf8Encode text) t child p

/-- A run on a text has the result that its child makes of the octets of the text. -/
theorem Spawns.invoke_eq (h : i.Spawns executable arguments text t child p) :
    i.invoke executable arguments text t =
      (.ok ⟨(child p).exitCode, outputText (child p).stdout, outputText (child p).stderr⟩,
        { (child p).tree with here := t.here }) := by
  obtain ⟨file, hfile, hchild⟩ := h
  exact invoke_eq_ok_iff.2 ⟨file, _, hfile, Launch.run_eq_ok_iff.2 ⟨child, p, hchild, rfl⟩, rfl, rfl⟩

theorem Spawns.input_eq (h : i.Spawns executable arguments text t child p) : p.input = utf8Encode text := by
  obtain ⟨file, -, hchild⟩ := h
  exact hchild.input_eq

/-- A text that is given to a child which copies its input and ends with 0 comes back with one kind of line
boundary, from the run and from the formatting that makes the run. Without carriage returns it comes back as it is.
No character is replaced. -/
theorem text_comes_back (h : i.Spawns executable arguments text t child p)
    (hcopy : (child p).stdout = p.input) (hcode : (child p).exitCode = 0) :
    ∃ out : String, LineFed text.toList out.toList ∧
      (∃ r, (i.invoke executable arguments text t).1 = .ok r ∧ r.exitCode = 0 ∧ r.stdout = out) ∧
      (∀ (find : Finder) (settings : Settings) (t₀ : FileTree),
        (find settings.resolution t₀).location = .ok executable → (find settings.resolution t₀).tree = t →
        settings.layout.arguments = .ok arguments →
        (formatDocument find i.invoke settings text t₀).result = .ok out) ∧
      ('\r' ∉ text.toList → out = text) ∧
      out.toList.count '\uFFFD' = text.toList.count '\uFFFD' := by
  have hfed := lineFed_outputText text
  have hout : outputText (child p).stdout = outputText (utf8Encode text) := by rw [hcopy, h.input_eq]
  refine ⟨outputText (utf8Encode text), hfed, ?_, ?_, outputText_utf8Encode, ?_⟩
  · exact ⟨_, congrArg Prod.fst h.invoke_eq, hcode, hout⟩
  · intro find settings t₀ hfound htree harguments
    refine serve_result_eq_ok_iff.2 ⟨executable, arguments, _, _, hfound, harguments, htree ▸ h.invoke_eq, ?_⟩
    simp [RunResult.interpret, hcode, hout]
  · exact hfed.count_eq (by decide) (by decide)

/-- A machine on which scripts can be run. -/
def scripting : Invoker := ⟨Shell.programs, [], none, none⟩

/-- A tree with a formatter at `/f` that is a script and copies its input. -/
def treeWithCopyist : FileTree where
  entries := [
    (["bin"], .directory), (["sh", "bin"], .file [] 0o755), (["cat", "bin"], .file [] 0o755),
    (["f"], .file (utf8Encode "#!/bin/sh\n/bin/cat\n") 0o755)]
  here := []

def copyistArguments : List String :=
  ["--line-width", "88", "--indent", "2", "--uppercase-keywords", "true"]

/-- The shell as it runs the script. -/
def copyist : Process where
  arguments := "/bin/sh" :: "/f" :: copyistArguments
  environment := []
  input := utf8Encode "a\r\né😀\rb"
  tree := treeWithCopyist

/-- A text with both kinds of carriage returns through a script that copies it. -/
theorem text_comes_back_script : ∃ child : Program,
    scripting.Spawns "/f" copyistArguments "a\r\né😀\rb" treeWithCopyist child copyist ∧
    (child copyist).stdout = copyist.input ∧ (child copyist).exitCode = 0 ∧
    LineFed "a\r\né😀\rb".toList "a\né😀\nb".toList ∧
    (formatDocument (fun _ t => .found "/f" t) scripting.invoke Settings.default "a\r\né😀\rb"
      treeWithCopyist).result = .ok "a\né😀\nb" := by
  have hrun : (Shell.programs ["sh", "bin"]).map
      (fun child => ((child copyist).stdout, (child copyist).exitCode)) = some (copyist.input, 0) := by
    decide +kernel
  have himage : imageOf (fun q => (Shell.programs q).isSome) treeWithCopyist interpreterLimit "/f"
      ("/f" :: copyistArguments) = .ok (["sh", "bin"], copyist.arguments) := by decide +kernel
  have hresult : (formatDocument (fun _ t => .found "/f" t) scripting.invoke Settings.default
      "a\r\né😀\rb" treeWithCopyist).result = .ok "a\né😀\nb" := by decide +kernel
  obtain ⟨child, hchild, h⟩ := Option.map_eq_some_iff.1 hrun
  obtain ⟨hcopy, hcode⟩ := Prod.mk.inj h
  have hcandidates : candidates [] "/f" = [] ++ "/f" :: [] := by decide +kernel
  have hspawns : scripting.Spawns "/f" copyistArguments "a\r\né😀\rb" treeWithCopyist child copyist :=
    ⟨"/f", by decide +kernel, by decide +kernel, rfl, hcandidates, by simp, himage, hchild⟩
  obtain ⟨out, hfed, -, hformat, -⟩ := text_comes_back hspawns hcopy hcode
  have hout := hformat (fun _ t => .found "/f" t) Settings.default treeWithCopyist rfl rfl (by decide +kernel)
  cases hresult.symm.trans hout
  exact ⟨child, hspawns, hcopy, hcode, hfed, hresult⟩

end Invoker

end SqlTidy
