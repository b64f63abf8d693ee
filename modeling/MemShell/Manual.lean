/-!
# Fixed texts

The banner of a new session and the texts of `help`, `ifconfig` and `top`, line by line.
-/

namespace MemShell.Manual

def banner : List String := ["webterm - type 'help' for available commands"]

def help : List String := [
  "",
  "Available commands:",
  "  ls [dir]         List files and directories",
  "  cd <dir>         Change the current directory",
  "  mkdir <name...>  Create one or more directories",
  "  pwd              Print the current directory",
  "",
  "  nano <file>      Create or edit a file (Ctrl+S save, Ctrl+X exit)",
  "  cat <file>       Print the contents of a file",
  "  rm <file>        Remove a file",
  "  rmdir <dir>      Remove an empty directory",
  "",
  "  ifconfig         Show network interfaces",
  "  top              List running processes",
  "  clear            Clear the terminal",
  "  help             Show this list",
  "  startx           Launch the desktop",
  ""]

def ifconfig : List String := [
  "eth0: flags=4163<UP,BROADCAST,RUNNING,MULTICAST> mtu 1500",
  "      inet 192.168.1.100 netmask 255.255.255.0 broadcast 192.168.1.255",
  "      ether a4:b1:c2:d3:e4:f5 txqueuelen 1000 (Ethernet)",
  "      RX packets 123456  bytes 9876543 (9.8 MB)",
  "      TX packets 654321  bytes 8765432 (8.7 MB)"]

def top : List String := [
  "PID     USER      %CPU    %MEM    COMMAND",
  "--------------------------------------------",
  "1234    root      0.3%    1.2%    systemd",
  "5678    user      1.8%    0.9%    node server.js",
  "9101    user      0.1%    0.5%    bash",
  "1121    user      2.5%    1.1%    firefox",
  "2233    user      0.7%    0.3%    htop"]

end MemShell.Manual
