import BrowserInput.TouchSelection.ActiveClient
import BrowserInput.TouchSelection.QuickMenu
import BrowserInput.TouchSelection.Controller
import BrowserInput.Ime.Adapter
import BrowserInput.Android.Connector
import BrowserInput.Android.WebContentsView
import BrowserInput.Compositor.GpuVSync
