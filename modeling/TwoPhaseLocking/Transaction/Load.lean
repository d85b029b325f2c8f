import TwoPhaseLocking.Transaction.Script
import TwoPhaseLocking.Host.Files

/-!
Loading a site's transaction script from its file: the text is read whole, as UTF-8, and
parsed with the site's own transaction numbering. A file that cannot be read is reported with
its path and the system's text.
-/
namespace TwoPhaseLocking
namespace Script

/-- The transactions of the script file at `path`, numbered for `site`. -/
def load (fs : Files) (path : String) (site : SiteId) : Except Error (List Transaction) :=
  match fs.readText path with
  | .error e => .error (.scriptFile path e.text)
  | .ok text => (parse text (IdGen.new site)).1

theorem load_unreadable (fs : Files) (path : String) (site : SiteId) (e : OsError)
    (h : fs.readText path = .error e) :
    load fs path site = .error (.scriptFile path e.text) := by
  simp [load, h]

end Script
end TwoPhaseLocking
