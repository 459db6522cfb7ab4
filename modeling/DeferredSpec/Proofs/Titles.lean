/-
# Titles ask and nothing more

The titles of groups and cases are composed when a tree is realized. Composing one
leaves the world as it is and does not depend on the log, so the titles of a whole tree
can be read off the world in which its realization begins.
-/

import DeferredSpec.Proofs.Log
import DeferredSpec.Realization.Title

namespace DeferredSpec

open DeferredSpec.Action

namespace ActionNode

theorem ignoresLog_label (node : ActionNode) : IgnoresLog node.label := by
  unfold label
  cases node.arguments with
  | none => exact IgnoresLog.pure node.description
  | some arguments =>
      exact (ignoresLog_plain node.description).bind fun _ =>
        (ignoresLog_renderAll arguments).bind fun _ => IgnoresLog.pure _

theorem onlyAsks_label (node : ActionNode) : OnlyAsks node.label := by
  unfold label
  cases node.arguments with
  | none => exact OnlyAsks.pure node.description
  | some arguments =>
      exact (onlyAsks_plain node.description).bind fun _ =>
        (onlyAsks_renderAll arguments).bind fun _ => OnlyAsks.pure _

theorem ignoresLog_labelText (node : ActionNode) : IgnoresLog node.labelText :=
  node.ignoresLog_label.bind ignoresLog_plain

theorem onlyAsks_labelText (node : ActionNode) : OnlyAsks node.labelText :=
  node.onlyAsks_label.bind onlyAsks_plain

end ActionNode

theorem ignoresLog_groupTitle (node : ActionNode) : IgnoresLog (groupTitle node) :=
  node.ignoresLog_labelText.bind fun _ => IgnoresLog.pure _

theorem onlyAsks_groupTitle (node : ActionNode) : OnlyAsks (groupTitle node) :=
  node.onlyAsks_labelText.bind fun _ => OnlyAsks.pure _

theorem ignoresLog_titleChunks (node : ActionNode) : IgnoresLog (titleChunks node) := by
  unfold titleChunks
  split
  · exact IgnoresLog.pure _
  · exact IgnoresLog.pure _
  · exact (ignoresLog_renderAll _).bind fun _ => IgnoresLog.pure _

theorem onlyAsks_titleChunks (node : ActionNode) : OnlyAsks (titleChunks node) := by
  unfold titleChunks
  split
  · exact OnlyAsks.pure _
  · exact OnlyAsks.pure _
  · exact (onlyAsks_renderAll _).bind fun _ => OnlyAsks.pure _

theorem ignoresLog_textsFrom (next : Nat) (values : List Value) :
    IgnoresLog (textsFrom next values) := by
  fun_induction textsFrom next values with
  | case1 => exact IgnoresLog.pure []
  | case2 _ _ _ ih => exact ih.bind fun _ => IgnoresLog.pure _
  | case3 next other rest _ =>
      exact (ignoresLog_typeName other).bind fun _ => ignoresLog_fail _

theorem onlyAsks_textsFrom (next : Nat) (values : List Value) :
    OnlyAsks (textsFrom next values) := by
  fun_induction textsFrom next values with
  | case1 => exact OnlyAsks.pure []
  | case2 _ _ _ ih => exact ih.bind fun _ => OnlyAsks.pure _
  | case3 next other rest _ => exact (OnlyAsks.read _).bind fun _ => onlyAsks_fail _

namespace SpecTree

variable (tree : SpecTree)

theorem ignoresLog_require (address : Address) (part : NodePart) (fault : Fault) :
    IgnoresLog (tree.require address part fault) := by
  unfold require
  split
  · exact ignoresLog_fail fault
  · exact IgnoresLog.pure ()

theorem onlyAsks_require (address : Address) (part : NodePart) (fault : Fault) :
    OnlyAsks (tree.require address part fault) := by
  unfold require
  split
  · exact onlyAsks_fail fault
  · exact OnlyAsks.pure ()

/-- The chunks of a title are composed along the only child, if there is one. -/
theorem chainChunks_node (address : Address) (here : ActionNode) (children : List ActionTree) :
    tree.chainChunks address (.node here children) = (do
      let own ← titleChunks here
      tree.require address .children (.noLength nothingType)
      match children with
      | [child] => do
          let rest ← tree.chainChunks (address ++ [0]) child
          pure (own ++ rest)
      | _ => pure own) :=
  chainChunks.eq_def tree address (.node here children)

theorem ignoresLog_chainChunks (address : Address) :
    ∀ found : ActionTree, IgnoresLog (tree.chainChunks address found)
  | .node here children => by
      rw [chainChunks_node]
      refine (ignoresLog_titleChunks here).bind fun own =>
        (tree.ignoresLog_require address _ _).bind fun _ => ?_
      match children with
      | [] => exact IgnoresLog.pure own
      | [child] =>
          exact (ignoresLog_chainChunks (address ++ [0]) child).bind fun _ => IgnoresLog.pure _
      | _ :: _ :: _ => exact IgnoresLog.pure own

theorem onlyAsks_chainChunks (address : Address) :
    ∀ found : ActionTree, OnlyAsks (tree.chainChunks address found)
  | .node here children => by
      rw [chainChunks_node]
      refine (onlyAsks_titleChunks here).bind fun own =>
        (tree.onlyAsks_require address _ _).bind fun _ => ?_
      match children with
      | [] => exact OnlyAsks.pure own
      | [child] =>
          exact (onlyAsks_chainChunks (address ++ [0]) child).bind fun _ => OnlyAsks.pure _
      | _ :: _ :: _ => exact OnlyAsks.pure own

theorem ignoresLog_caseTitle (address : Address) (found : ActionTree) :
    IgnoresLog (tree.caseTitle address found) :=
  (tree.ignoresLog_chainChunks address found).bind fun chunks =>
    (ignoresLog_textsFrom 0 chunks).bind fun _ => IgnoresLog.pure _

theorem onlyAsks_caseTitle (address : Address) (found : ActionTree) :
    OnlyAsks (tree.caseTitle address found) :=
  (tree.onlyAsks_chainChunks address found).bind fun chunks =>
    (onlyAsks_textsFrom 0 chunks).bind fun _ => OnlyAsks.pure _

end SpecTree

end DeferredSpec
