import Quarry.Proofs.Sandbox.Containment

/-! Files that the sandbox lets through: the check says nothing about them and gives their path. -/
namespace Quarry

theorem Disk.size_of_read (disk : Disk) (path : Path) (octets : List UInt8)
    (h : disk.read path = .ok octets) : disk.size path = .ok octets.length := by
  cases hlocate : disk.locate path with
  | error error => simp [read, hlocate, bind, Except.bind] at h
  | ok location =>
    simp only [read, size, hlocate, bind, Except.bind] at h ⊢
    cases hnode : disk.node? location with
    | none => simp [hnode] at h
    | some node =>
      cases node with
      | file found =>
        simp only [hnode, Except.ok.injEq] at h
        rw [h]
      | directory => simp [hnode] at h
      | link target => simp [hnode] at h

namespace Sandbox

/-- No form of a path without links has a null character. -/
theorem canonical_noNul (disk : Disk) (hd : disk.Sound) (path resolved : Path)
    (hp : path.Spelled) (h : canonical disk path = .ok resolved) :
    ∀ name ∈ resolved.names, Char.ofNat 0 ∉ name := by
  rcases Disk.resolve_cases disk _ resolved ((canonical_eq_ok disk _ resolved).1 h) with
    ⟨location, hlocation, rfl⟩ | ⟨rest, -, rfl⟩
  · have hplain := Disk.destination_plain disk hd _ hp location hlocation
    exact fun name hname => (hplain.names name hname).noNul
  -- What a circle of links leaves over is not looked up, but has none either.
  · exact Disk.lexicalPath_noNul rest

section

variable (sandbox : Sandbox) (disk : Disk) (requested : Option Text) (path : Path)
  (h : (sandbox.resolve disk requested).outcome = .ok path)

include h

theorem resolve_eq_pure : sandbox.resolve disk requested = pure path := by
  obtain ⟨text, base, rfl, hblank, hbase, hpath, hw⟩ := (resolve_eq_ok _ _ _ _).1 h
  have hfilled : ¬Text.isBlank text = true := by simp [hblank]
  rw [resolve, if_neg hfilled, hbase, Traced.ofExcept_ok_bind, hpath, Traced.ofExcept_ok_bind,
    if_pos hw]

theorem holdsNul_of_resolve (hd : disk.Sound) (hb : sandbox.base.Spelled) :
    holdsNul path = false := by
  obtain ⟨text, base, -, -, hbase, hpath, -⟩ := (resolve_eq_ok _ _ _ _).1 h
  have hspelled := Path.join_spelled base (.ofText text)
    (canonical_spelled disk hd sandbox.base base hb hbase) (Path.ofText_spelled text)
  have hnames := canonical_noNul disk hd _ path hspelled hpath
  rw [holdsNul, List.any_eq_false]
  intro name hname
  simpa using hnames name hname

/-- A file that is let through and is not too large passes the check. -/
theorem check_eq_pure (hd : disk.Sound) (hb : sandbox.base.Spelled) (size : Nat)
    (hsize : disk.size path = .ok size) (hlimit : size ≤ sandbox.maxFileSize) :
    sandbox.check disk requested = pure path := by
  have hnul := holdsNul_of_resolve sandbox disk requested path h hd hb
  have hcheck : sandbox.checkSize disk path = .ok size := by
    rw [checkSize, if_neg (by simp [hnul]), hsize]
    exact if_neg (by omega)
  rw [check, resolve_eq_pure sandbox disk requested path h, Traced.pure_bind, hcheck]
  rfl

/-- A file that is let through but is too large is reported as such. -/
theorem check_eq_fail (hd : disk.Sound) (hb : sandbox.base.Spelled) (size : Nat)
    (hsize : disk.size path = .ok size) (hlimit : sandbox.maxFileSize < size) :
    sandbox.check disk requested = .fail (.fileTooLarge path.text size sandbox.maxFileSize) := by
  have hnul := holdsNul_of_resolve sandbox disk requested path h hd hb
  have hcheck : sandbox.checkSize disk path =
      .error (.fileTooLarge path.text size sandbox.maxFileSize) := by
    rw [checkSize, if_neg (by simp [hnul]), hsize]
    exact if_pos hlimit
  rw [check, resolve_eq_pure sandbox disk requested path h, Traced.pure_bind, hcheck]
  rfl

end

end Sandbox
end Quarry
