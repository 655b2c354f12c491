import GoAssets.Disk.Tree
import GoAssets.Proofs.Scan.Bundles

/-!
# Scanning files on disk

Files on disk are scanned as if their texts had been read beforehand. Before that, two questions
are put to the disk, and only where they matter: the size of a file, if there is a limit, and its
content, if the size is within the limit.

- `Disk.Supplies` relates a file to the texts that can stand for it. A file over the limit is never
  read, so every text of its size will do.
- `Disk.Refuses` says that a file cannot be had, and why.

Every file does one of the two (`Disk.supplies_or_refuses`). A file that is supplied is one step of
the scan in memory (`Session.scanFile_of_supplies`), and one that is refused ends the scan
(`Session.scanFile_of_refuses`); by induction this gives the scan of a list of files. The two scans
also start differently, which only the journal shows (`Session.result_start`).
-/

namespace GoAssets

namespace Disk

/-- The size that the disk gives for a file is that of its content. -/
def Consistent (d : Disk) : Prop :=
  ∀ file size bytes, d.size file = .ok size → d.content file = .ok bytes → size = bytes.size

/-- The size of a file can be had and is within the limit, if there is one. -/
def Admits (d : Disk) (limit : Option UInt64) (file : Path) : Prop :=
  ∀ max, limit = some max → ∃ size, d.size file = .ok size ∧ size ≤ max.toNat

/-- A file cannot be had: its size is asked for and refused, or it is within the limit and its
content is refused or is no text. -/
inductive Refuses (d : Disk) (limit : Option UInt64) (file : Path) : IoFailure → Prop where
  | size {max : UInt64} {cause : IoFailure} (hlimit : limit = some max)
      (hsize : d.size file = .error cause) : Refuses d limit file cause
  | content {cause : IoFailure} (hadmits : d.Admits limit file)
      (hcontent : d.content file = .error cause) : Refuses d limit file cause
  | encoding {bytes : ByteArray} (hadmits : d.Admits limit file)
      (hcontent : d.content file = .ok bytes) (hutf8 : ¬ bytes.IsValidUTF8) :
      Refuses d limit file .notUtf8

/-- A text stands for a file: the file is over the limit and the text has its size, or the file is
within the limit and the text is its content. -/
inductive Supplies (d : Disk) (limit : Option UInt64) (file : Path) (source : String) : Prop where
  | skipped {max : UInt64} (hlimit : limit = some max)
      (hsize : d.size file = .ok source.utf8ByteSize) (hover : max.toNat < source.utf8ByteSize)
  | read (hadmits : d.Admits limit file) (hcontent : d.content file = .ok source.toUTF8)

variable {d : Disk} {limit : Option UInt64} {file : Path}

theorem exists_utf8ByteSize_eq (size : Nat) : ∃ source : String, source.utf8ByteSize = size := by
  induction size with
  | zero => exact ⟨"", rfl⟩
  | succ n ih =>
      obtain ⟨source, rfl⟩ := ih
      exact ⟨source.push 'a', by rw [String.utf8ByteSize_push]; rfl⟩

theorem text_of_content {source : String} (h : d.content file = .ok source.toUTF8) :
    d.text file = .ok source := by
  have hutf8 : String.fromUTF8? source.toUTF8 = some source := fromUTF8?_eq_some_iff.mpr rfl
  rw [text, h]
  simp only [bind, Except.bind, hutf8]
  rfl

theorem text_of_not_utf8 {bytes : ByteArray} (h : d.content file = .ok bytes)
    (hutf8 : ¬ bytes.IsValidUTF8) : d.text file = .error .notUtf8 := by
  have hnone : String.fromUTF8? bytes = none := dif_neg hutf8
  rw [text, h]
  simp only [bind, Except.bind, hnone]
  rfl

theorem supplies_or_refuses_of_admits (h : d.Admits limit file) :
    (∃ source, d.Supplies limit file source) ∨ ∃ cause, d.Refuses limit file cause := by
  cases hcontent : d.content file with
  | error cause => exact .inr ⟨cause, .content h hcontent⟩
  | ok bytes =>
      by_cases hutf8 : bytes.IsValidUTF8
      · exact .inl ⟨⟨bytes, hutf8⟩, .read h hcontent⟩
      · exact .inr ⟨_, .encoding h hcontent hutf8⟩

theorem supplies_or_refuses (d : Disk) (limit : Option UInt64) (file : Path) :
    (∃ source, d.Supplies limit file source) ∨ ∃ cause, d.Refuses limit file cause := by
  cases limit with
  | none => exact supplies_or_refuses_of_admits fun max hmax => by cases hmax
  | some max =>
      cases hsize : d.size file with
      | error cause => exact .inr ⟨cause, .size rfl hsize⟩
      | ok size =>
          by_cases hover : max.toNat < size
          · obtain ⟨source, rfl⟩ := exists_utf8ByteSize_eq size
            exact .inl ⟨source, .skipped rfl hsize hover⟩
          · refine supplies_or_refuses_of_admits fun max' hmax => ?_
            obtain rfl := Option.some.inj hmax
            exact ⟨size, hsize, Nat.le_of_not_lt hover⟩

/-- No file is both supplied and refused. -/
theorem Supplies.not_refuses {source : String} (h : d.Supplies limit file source)
    (cause : IoFailure) : ¬ d.Refuses limit file cause := by
  intro hrefuses
  cases h with
  | @skipped max hlimit hsize hover =>
      -- The size was had, so the file is refused for its content, which needs a size in the limit.
      have hadmits : ¬ d.Admits limit file := by
        intro h
        obtain ⟨size, hsize', hle⟩ := h max hlimit
        rw [hsize] at hsize'
        obtain rfl := Except.ok.inj hsize'
        exact absurd hle (Nat.not_le.mpr hover)
      cases hrefuses with
      | size _ hsize' => rw [hsize] at hsize'; cases hsize'
      | content h _ => exact hadmits h
      | encoding h _ _ => exact hadmits h
  | read hadmits hcontent =>
      cases hrefuses with
      | @size max _ hlimit hsize =>
          obtain ⟨size, hsize', -⟩ := hadmits max hlimit
          rw [hsize] at hsize'
          cases hsize'
      | content _ hcontent' => rw [hcontent] at hcontent'; cases hcontent'
      | encoding _ hcontent' hutf8 =>
          rw [hcontent] at hcontent'
          obtain rfl := Except.ok.inj hcontent'
          exact hutf8 source.isValidUTF8

/-- Files of which none is refused are all supplied. -/
theorem exists_supplies {files : List Path}
    (h : ∀ file ∈ files, ∀ cause, ¬ d.Refuses limit file cause) :
    ∃ sources, List.Forall₂ (d.Supplies limit) files sources := by
  induction files with
  | nil => exact ⟨[], .nil⟩
  | cons file files ih =>
      obtain ⟨sources, hsources⟩ := ih fun f hf => h f (List.mem_cons_of_mem _ hf)
      rcases d.supplies_or_refuses limit file with ⟨source, hsource⟩ | ⟨cause, hcause⟩
      · exact ⟨source :: sources, .cons hsource hsources⟩
      · exact absurd hcause (h file (List.mem_cons_self ..) cause)

end Disk

/-- A tree tells the sizes of its files as they are. -/
theorem DirectoryTree.consistent_disk (t : DirectoryTree) (cwd : List String) :
    (t.disk cwd).Consistent := by
  intro file size bytes hsize hcontent
  simp only [disk, bind, Except.bind] at hsize hcontent
  cases hentry : t.lookup cwd file with
  | error cause => rw [hentry] at hsize; cases hsize
  | ok entry =>
      rw [hentry] at hsize hcontent
      cases entry with
      | directory names => cases hcontent
      | file content =>
          obtain rfl := Except.ok.inj hsize
          obtain rfl := Except.ok.inj hcontent
          rfl

/-! ## One file -/

namespace Session

variable {sc : Scanner} {disk : Disk} {file : Path} {source : String}

theorem tooLarge?_of_le {size : Nat} (h : ∀ max, sc.limit = some max → size ≤ max.toNat) :
    tooLarge? sc file size = none := by
  rw [tooLarge?]
  split
  · rename_i max hlimit
    rw [if_neg (Nat.not_lt.mpr (h max hlimit))]
  · rfl

theorem readSource_of_admits (h : disk.Admits sc.limit file) :
    readSource sc disk file
      = match disk.text file with
        | .error cause => .error (.unreadable file cause)
        | .ok source => .ok source := by
  rw [readSource]
  cases hlimit : sc.limit with
  | none => rfl
  | some max =>
      obtain ⟨size, hsize, hle⟩ := h max hlimit
      have hnone : tooLarge? sc file size = none := by
        refine tooLarge?_of_le fun max' hmax => ?_
        obtain rfl := Option.some.inj (hlimit.symm.trans hmax)
        exact hle
      simp only [hsize, hnone]
      rfl

theorem scanFile_of_supplies (hd : disk.Consistent) (h : disk.Supplies sc.limit file source)
    (s : Session) : scanFile sc disk file s = scanSource sc (file, source) s := by
  rw [scanFile, scanSource]
  cases h with
  | @skipped max hlimit hsize hover =>
      have hlarge : tooLarge? sc file source.utf8ByteSize
          = some (.fileTooLarge file source.utf8ByteSize max.toNat) := by
        rw [tooLarge?, hlimit]
        exact if_pos hover
      rw [readSource, hlimit, hsize]
      simp only [hlarge]
      rfl
  | read hadmits hcontent =>
      have hsmall : tooLarge? sc file source.utf8ByteSize = none := by
        refine tooLarge?_of_le fun max hmax => ?_
        obtain ⟨size, hsize, hle⟩ := hadmits max hmax
        obtain rfl := hd file size _ hsize hcontent
        exact hle
      rw [readSource_of_admits hadmits, Disk.text_of_content hcontent, hsmall]

theorem scanFile_of_refuses {cause : IoFailure} (h : disk.Refuses sc.limit file cause)
    (s : Session) : scanFile sc disk file s = (s, some (.scan (.unreadable file cause))) := by
  have hread : readSource sc disk file = .error (.unreadable file cause) := by
    cases h with
    | size hlimit hsize =>
        rw [readSource, hlimit, hsize]
        rfl
    | content hadmits hcontent =>
        rw [readSource_of_admits hadmits, Disk.text, hcontent]
        rfl
    | encoding hadmits hcontent hutf8 =>
        rw [readSource_of_admits hadmits, Disk.text_of_not_utf8 hcontent hutf8]
  rw [scanFile, hread]
  rfl

/-! ## All files -/

theorem scanAll_of_supplies (hd : disk.Consistent) {files : List Path} {sources : List String}
    (h : List.Forall₂ (disk.Supplies sc.limit) files sources) (s : Session) :
    scanAll (scanFile sc disk) s files = scanAll (scanSource sc) s (files.zip sources) := by
  induction h generalizing s with
  | nil => rfl
  | @cons file source files sources hfirst _ ih =>
      rw [List.zip_cons_cons, scanAll, scanAll, scanFile_of_supplies hd hfirst]
      cases scanSource sc (file, source) s with
      | mk s' stop =>
          cases stop with
          | some e => rfl
          | none => exact ih s'

end Session

namespace Scanner

/-- Files on disk are scanned as their texts in memory. If none of them is refused, the scan of the
files has the result of the scan of their texts; a file over the limit is not looked into, so any
text of its size stands for it. Otherwise the first file that is refused ends the scan with an error
that names it, unless the scan of the texts before it failed already, which is then the result. -/
theorem scan_eq_scanSources (sc : Scanner) {disk : Disk} (hd : disk.Consistent)
    (files : List Path) :
    ((∀ file ∈ files, ∀ cause, ¬ disk.Refuses sc.limit file cause) →
      (∃ sources, List.Forall₂ (disk.Supplies sc.limit) files sources)
      ∧ ∀ sources, List.Forall₂ (disk.Supplies sc.limit) files sources →
        (sc.scan disk files).result = (sc.scanSources (files.zip sources)).result)
    ∧ ∀ before file after cause, files = before ++ file :: after →
      (∀ f ∈ before, ∀ cause', ¬ disk.Refuses sc.limit f cause') →
      disk.Refuses sc.limit file cause →
      (∃ sources, List.Forall₂ (disk.Supplies sc.limit) before sources)
      ∧ ∀ sources, List.Forall₂ (disk.Supplies sc.limit) before sources →
        (sc.scan disk files).result = (sc.scanSources (before.zip sources)).result.bind fun _ =>
          .error (.scan (.unreadable file cause)) := by
  constructor
  · intro hfiles
    refine ⟨Disk.exists_supplies hfiles, ?_⟩
    intro sources hsources
    rw [scan, Session.scanAll_of_supplies hd hsources, Session.result_start]
  · rintro before file after cause rfl hbefore hfile
    refine ⟨Disk.exists_supplies hbefore, ?_⟩
    intro sources hsources
    -- The number of files, with which a scan of files starts, is no part of the result.
    rw [scan, Session.scanAll_append, Session.scanAll_of_supplies hd hsources,
      ← Session.result_start sc (some (before ++ file :: after).length)]
    generalize Session.scanAll (Session.scanSource sc)
      (Session.start (some (before ++ file :: after).length)) (before.zip sources) = done
    obtain ⟨s, stop⟩ := done
    cases stop with
    | some e => rfl
    | none =>
        simp only [Session.scanAll, Session.scanFile_of_refuses hfile]
        rfl

/-- A scanner that finds the directories of groups from the working directory `/w`, and skips files
of more than 64 bytes. -/
def smallFilesScanner : Scanner := { assetsScanner with limit := some 64 }

def groupText : String :=
  Layout.tabbed.text "a" [⟨"img", ⟨"assets", "Group", "img"⟩⟩]

/-- A directory tree with a small file of text and a large one of bytes that are no text. -/
def mixedTree : DirectoryTree :=
  (({} : DirectoryTree).addFile ["a", "x.go"] groupText.toUTF8).addFile ["big.go"]
    ⟨Array.replicate 80 255⟩

def largeText : String := "".pushn 'a' 80

/-- The first two files are scanned as texts, and the third one, which is missing, ends the scan. -/
theorem scan_eq_scanSources_mixedTree :
    (mixedTree.disk []).Consistent
      ∧ (mixedTree.disk []).Refuses smallFilesScanner.limit ⟨"gone.go"⟩ .notFound
      ∧ List.Forall₂ ((mixedTree.disk []).Supplies smallFilesScanner.limit)
          [⟨"a/x.go"⟩, ⟨"big.go"⟩] [groupText, largeText]
      ∧ (smallFilesScanner.scan (mixedTree.disk []) [⟨"a/x.go"⟩, ⟨"big.go"⟩]).result
          = (smallFilesScanner.scanSources
              (List.zip [⟨"a/x.go"⟩, ⟨"big.go"⟩] [groupText, largeText])).result
      ∧ (smallFilesScanner.scan (mixedTree.disk [])
            ([⟨"a/x.go"⟩, ⟨"big.go"⟩] ++ ⟨"gone.go"⟩ :: [⟨"a/x.go"⟩])).result
          = (smallFilesScanner.scanSources
              (List.zip [⟨"a/x.go"⟩, ⟨"big.go"⟩] [groupText, largeText])).result.bind fun _ =>
                .error (.scan (.unreadable ⟨"gone.go"⟩ .notFound)) := by
  have hconsistent := mixedTree.consistent_disk []
  have hgone : (mixedTree.disk []).Refuses smallFilesScanner.limit ⟨"gone.go"⟩ .notFound :=
    .size rfl rfl
  have hsmall : (mixedTree.disk []).Supplies smallFilesScanner.limit ⟨"a/x.go"⟩ groupText := by
    refine .read (fun max hmax => ⟨groupText.utf8ByteSize, rfl, ?_⟩) rfl
    obtain rfl := Option.some.inj hmax
    decide +kernel
  have hbig : (mixedTree.disk []).Supplies smallFilesScanner.limit ⟨"big.go"⟩ largeText := by
    have hlimit : smallFilesScanner.limit = some 64 := rfl
    have hlen : largeText.utf8ByteSize = 80 := by decide +kernel
    refine .skipped hlimit ?_ ?_
    · rw [hlen]
      rfl
    · rw [hlen]
      decide
  have hnone : ∀ f ∈ [⟨"a/x.go"⟩, ⟨"big.go"⟩], ∀ cause,
      ¬ (mixedTree.disk []).Refuses smallFilesScanner.limit f cause := by
    intro f hf cause
    rw [List.mem_cons, List.mem_singleton] at hf
    rcases hf with rfl | rfl
    · exact hsmall.not_refuses cause
    · exact hbig.not_refuses cause
  have hsupplied := List.Forall₂.cons hsmall (.cons hbig .nil)
  have hall := (scan_eq_scanSources smallFilesScanner hconsistent _).1 hnone
  have hends := (scan_eq_scanSources smallFilesScanner hconsistent _).2 _ _ [⟨"a/x.go"⟩] _ rfl hnone
    hgone
  exact ⟨hconsistent, hgone, hsupplied, hall.2 _ hsupplied, hends.2 _ hsupplied⟩

end Scanner

end GoAssets
