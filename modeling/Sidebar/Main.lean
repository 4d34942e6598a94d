import Sidebar.Demo
/-!
# Command line

`main` of `demos/sidebar.rs`.

Prints the report of the sidebar demonstration.
-/

def main : IO Unit := do
  let out ← IO.getStdout
  out.putStr Sidebar.Demo.report
  out.flush
